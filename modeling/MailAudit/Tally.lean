import MailAudit.Sum

namespace MailAudit

inductive Failure where
  | mxLookup
  | noMxRecords
  | probeTimeout
  | connect
  | smtpProtocol
  | starttlsUnsupported
  | tlsHandshake
  | tlsVersionDeprecated
  | certificateInvalid
  | certificateExpiring
  | policyUnavailable
  | policyInconsistent
  | cacheRead
  | cacheWrite
  deriving DecidableEq, Repr

namespace Failure

def all : List Failure :=
  [mxLookup, noMxRecords, probeTimeout, connect, smtpProtocol, starttlsUnsupported, tlsHandshake,
    tlsVersionDeprecated, certificateInvalid, certificateExpiring, policyUnavailable,
    policyInconsistent, cacheRead, cacheWrite]

def label : Failure → String
  | mxLookup => "MX lookup error"
  | noMxRecords => "No MX records"
  | probeTimeout => "Probe timeout"
  | connect => "SMTP connect error"
  | smtpProtocol => "SMTP protocol error"
  | starttlsUnsupported => "STARTTLS not supported"
  | tlsHandshake => "TLS handshake error"
  | tlsVersionDeprecated => "Deprecated TLS version"
  | certificateInvalid => "Invalid certificate"
  | certificateExpiring => "Certificate expiring soon"
  | policyUnavailable => "MTA-STS policy unavailable"
  | policyInconsistent => "MTA-STS policy inconsistent with MX"
  | cacheRead => "Scan cache read error"
  | cacheWrite => "Scan cache write error"

end Failure

inductive Milestone where
  | domainChecked
  | hostProbed
  | cacheHit
  | policyFound
  deriving DecidableEq, Repr

namespace Milestone

def all : List Milestone := [domainChecked, hostProbed, cacheHit, policyFound]

def label : Milestone → String
  | domainChecked => "Domains checked"
  | hostProbed => "Hostnames probed"
  | cacheHit => "Scan cache hits"
  | policyFound => "MTA-STS policies found"

end Milestone

inductive Counter where
  | failure (f : Failure)
  | milestone (m : Milestone)
  deriving DecidableEq, Repr

namespace Counter

def all : List Counter := Failure.all.map failure ++ Milestone.all.map milestone

def label : Counter → String
  | failure f => f.label
  | milestone m => m.label

end Counter

structure Tally where
  count : Counter → Nat

namespace Tally

def empty : Tally := ⟨fun _ => 0⟩

def raise (t : Tally) (c : Counter) : Tally :=
  ⟨fun d => if d = c then t.count d + 1 else t.count d⟩

def ofList (cs : List Counter) : Tally := ⟨fun c => cs.count c⟩

def failures (t : Tally) (f : Failure) : Nat := t.count (.failure f)

def milestones (t : Tally) (m : Milestone) : Nat := t.count (.milestone m)

def totalFailures (t : Tally) : Nat := sumOf (Failure.all.map t.failures)

def totalMilestones (t : Tally) : Nat := sumOf (Milestone.all.map t.milestones)

def total (t : Tally) : Counter → Nat
  | .failure _ => t.totalFailures
  | .milestone _ => t.totalMilestones

end Tally

end MailAudit
