import MailAudit.Check
import MailAudit.Log
import MailAudit.Tls.ServerName

namespace MailAudit.Tls

inductive Purpose where
  | server
  | authority
  | other
  deriving DecidableEq, Repr

structure Certificate where
  names : List String
  notBefore : Int
  notAfter : Int
  signer : String
  purpose : Purpose := .server
  subject : String := ""
  deriving DecidableEq, Repr

namespace Certificate

def secondsPerDay : Int := 86400

def daysBetween (start finish : Int) : Int := (finish - start) / secondsPerDay

/-- Below this number of days a certificate is worth a warning. -/
def warningDays : Int := 14

/-- A certified name stands for itself without regard to case, or with `*` as its first label and at
least two more for all names that have some label there. -/
def nameCovers (certified host : String) : Bool :=
  let host := ServerName.labels (host.toList.map Char.toLower)
  match Text.splitAll '.' (certified.toList.map Char.toLower), host with
  | ['*'] :: rest, _ :: hostRest => 2 ≤ rest.length && rest == hostRest
  | labels, host => labels == host

def covers (c : Certificate) : ServerName → Bool
  | .dns host => c.names.any fun name =>
      (Address.ofChars? name.toList).isNone && nameCovers name host
  | .address a => c.names.any fun name => Address.ofChars? name.toList == some a

end Certificate

inductive Presented where
  | certificate (c : Certificate)
  | unreadable
  deriving DecidableEq, Repr

structure Roots where
  signers : List String
  deriving DecidableEq, Repr

namespace Roots

def publicWeb : Roots := ⟨["public web"]⟩

def usable (r : Roots) : Except String Roots :=
  if r.signers.isEmpty then .error "no root trust anchors were provided" else .ok r

end Roots

inductive CertificateError where
  | unreadable
  | endsBeforeStart
  | notYetValid
  | expired
  | wrongPurpose
  | unknownSigner
  | wrongName
  | other (reason : String)
  deriving DecidableEq, Repr

namespace CertificateError

def message : CertificateError → String
  | unreadable => "Certificate is invalid: it cannot be read"
  | endsBeforeStart => "Certificate has expired"
  | notYetValid => "Certificate is invalid: it is not valid yet"
  | expired => "Certificate is invalid: it has expired"
  | wrongPurpose => "Certificate is invalid: it is not for servers"
  | unknownSigner => "Certificate is not signed by a trusted root"
  | wrongName => "Certificate is invalid: it is made out to another name"
  | other reason => s!"Certificate is invalid: {reason}"

end CertificateError

namespace Certificate

/-- The first of the faults of a certificate, judged in the order of the constructors. A time before
the start of 1970 cannot be read. -/
def verify (roots : Roots) (name : ServerName) (now : Int) (presented : Presented) :
    Except CertificateError Certificate :=
  match presented with
  | .unreadable => .error .unreadable
  | .certificate c =>
      if c.notBefore < 0 || c.notAfter < 0 then .error .unreadable
      else if c.notAfter < c.notBefore then .error .endsBeforeStart
      else if now < c.notBefore then .error .notYetValid
      else if c.notAfter < now then .error .expired
      else if c.purpose != .server then .error .wrongPurpose
      else if !roots.signers.contains c.signer then .error .unknownSigner
      else if !c.covers name then .error .wrongName
      else .ok c

end Certificate

structure Details where
  subject : String
  notAfter : Int
  deriving DecidableEq, Repr

/-- How presented chains are judged: whether a server may come with its own certificate and some
others under a name at a time, and what a certificate says of itself, or why that cannot be read. -/
structure Trust where
  verify (name : ServerName) (now : Int) (own : Presented) (others : List Presented) :
    Except CertificateError Unit
  details (presented : Presented) : Except String Details

namespace Trust

def subject? (t : Trust) (presented : Presented) : Option String :=
  (t.details presented).toOption.map (·.subject)

def validUntil? (t : Trust) (presented : Presented) : Option Int :=
  (t.details presented).toOption.map (·.notAfter)

end Trust

def Presented.unreadableReason : String := "failed to parse certificate"

def Roots.trust (r : Roots) : Trust where
  verify name now own _ := (Certificate.verify r name now own).map fun _ => ()
  details
    | .certificate c => .ok ⟨c.subject, c.notAfter⟩
    | .unreadable => .error Presented.unreadableReason

instance : Coe Roots Trust := ⟨Roots.trust⟩

namespace Certificate

def noneMessage : String := "Server presented no certificate"

def invalidNameMessage (hostname : String) : String :=
  s!"{hostname} is not a valid TLS server name: {ServerName.invalidReason}"

def expiryMessage (hostname : String) (days : Int) : String :=
  s!"Certificate for {hostname} expires in {days} days"

def trusted (trust : Trust) (hostname : String) (now : Int) :
    List Presented → Except String Presented
  | [] => .error noneMessage
  | own :: others =>
      match ServerName.of? hostname with
      | none => .error (invalidNameMessage hostname)
      | some name =>
          match trust.verify name now own others with
          | .error e => .error e.message
          | .ok () => .ok own

/-- The check of a presented chain. Its end is looked at only once it is trusted, and an end that
cannot be read does no harm. -/
def check (trust : Trust) (hostname : String) (now : Int) (chain : List Presented) : Check :=
  match trusted trust hostname now chain with
  | .error message => .fail Check.certificate message
  | .ok own =>
      match (trust.validUntil? own).map (daysBetween now) with
      | some days =>
          if days < warningDays then .warn Check.certificate (expiryMessage hostname days)
          else .pass Check.certificate
      | none => .pass Check.certificate

def notes (trust : Trust) (hostname : String) (now : Int) (chain : List Presented) : List Note :=
  match (trusted trust hostname now chain).map trust.details with
  | .ok (.error reason) =>
    [.log .debug .certificates s!"Skipping expiry check for {hostname}: {reason}"]
  | _ => []

end Certificate

end MailAudit.Tls
