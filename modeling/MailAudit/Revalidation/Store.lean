import MailAudit.Network
import MailAudit.Json.Decoder
import MailAudit.Json.Reader
import MailAudit.Keyed
import MailAudit.Scans.StoreError

namespace MailAudit.Revalidation

structure Store where
  hosts : Keyed (List String)
  deriving DecidableEq, Repr

namespace Store

/-- Of pairs whose domains normalize alike the last one stays. -/
def ofList (pairs : List (String × List String)) : Store :=
  ⟨.ofList (pairs.map fun (domain, hosts) => (HostName.normalize domain, hosts))⟩

def pairsOfJson? (v : Json) : Option (List (String × List String)) := do
  let entries ← v.entries? Json.nestingLimit
  entries.mapM fun (domain, hosts) =>
    (hosts.texts? (Json.nestingLimit - 1)).map fun hosts => (domain, hosts)

def ofJson (source : String) : Except StoreError Store :=
  match (Json.parse? source).bind pairsOfJson? with
  | some pairs => .ok (ofList (Keyed.ofList pairs).entries)
  | none => .error (.serialization "not an object of lists of hostnames")

def size (s : Store) : Nat := s.hosts.size

def isEmpty (s : Store) : Bool := s.hosts.isEmpty

def domains (s : Store) : List String := s.hosts.keys

def hostsOf (s : Store) (domain : String) : Except StoreError (List String) :=
  match s.hosts.get? (HostName.normalize domain) with
  | some hosts => .ok hosts
  | none => .error (.unavailable s!"Unknown domain {domain}")

end Store

end MailAudit.Revalidation
