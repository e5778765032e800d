import MailAudit.Dns.Name
import MailAudit.Text.Utf8
import MailAudit.Dns.Zone
import MailAudit.Log
import MailAudit.Network

namespace MailAudit.Dns

inductive Record where
  | mx (preference : Nat) (host : String)
  | txt (strings : List (List UInt8))
  | alias (host : String)
  deriving DecidableEq, Repr

inductive Server where
  | silent
  | records (records : List Record)
  deriving DecidableEq, Repr

inductive Question where
  | mx
  | txt
  deriving DecidableEq, Repr

namespace Question

def name : Question → String
  | mx => "MX"
  | txt => "TXT"

end Question

inductive QueryError where
  | name (e : NameError)
  | timeout
  | unreachable
  deriving DecidableEq, Repr

namespace QueryError

def message : QueryError → String
  | name e => e.message
  | timeout => "request timed out"
  | unreachable => "no connections available"

end QueryError

namespace Record

def mx? : Record → Option (Nat × String)
  | mx preference host => some (preference, HostName.normalize host)
  | _ => none

def txt? : Record → Option String
  | txt strings => some (String.join (strings.map Text.Utf8.decodeLossy))
  | _ => none

/-- The hosts by preference, those of equal preference in the order given. -/
def mxHosts (records : List Record) : List String :=
  (((records.filterMap mx?).filter fun (_, host) => host != "").mergeSort
    fun a b => a.1 ≤ b.1).map (·.2)

def texts (records : List Record) : List String := records.filterMap txt?

end Record

namespace Question

def answers (records : List Record) : Question → List String
  | mx => Record.mxHosts records
  | txt => Record.texts records

end Question

structure Resolver where
  network : Network
  server : Server
  deriving DecidableEq, Repr

namespace Resolver

def query (r : Resolver) (question : Question) (name : String) : Except QueryError (List String) :=
  match Name.read name with
  | .error e => .error (.name e)
  | .ok labels =>
      if Name.isReserved labels then .ok []
      else
        match r.network, r.server with
        | .unreachable, _ => .error .unreachable
        | .routed, .silent => .error .timeout
        | .routed, .records records => .ok (question.answers records)

def failureNote (question : Question) (name : String) (e : QueryError) : Note :=
  match e with
  | .timeout => .log .warn .dns s!"{question.name} record lookup timed out for {name}: {e.message}"
  | _ => .log .warn .dns s!"Failed to lookup {question.name} records for {name}: {e.message}"

def lookup (r : Resolver) (question : Question) (name : String) :
    Except LookupError (List String) × List Note :=
  match r.query question name with
  | .ok answers => (.ok answers, [])
  | .error e => (.error ⟨name, e.message⟩, [failureNote question name e])

end Resolver

end MailAudit.Dns
