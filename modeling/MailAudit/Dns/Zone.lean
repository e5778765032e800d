import MailAudit.Network
import MailAudit.Keyed

namespace MailAudit.Dns

structure LookupError where
  name : String
  reason : String
  deriving DecidableEq, Repr

namespace LookupError

def message (e : LookupError) : String :=
  s!"DNS lookup for {e.name} failed: {e.reason}"

end LookupError

structure Zone where
  mx : Keyed (List String) := .empty
  txt : Keyed (List String) := .empty
  failing : Keyed String := .empty
  deriving Repr

namespace Zone

def withMx (z : Zone) (name : String) (hosts : List String) : Zone :=
  { z with mx := z.mx.insert (HostName.normalize name) hosts }

def withTxt (z : Zone) (name : String) (records : List String) : Zone :=
  { z with txt := z.txt.insert (HostName.normalize name) records }

def withError (z : Zone) (name reason : String) : Zone :=
  { z with failing := z.failing.insert (HostName.normalize name) reason }

def ofTables (mx txt : List (String × List String)) (failing : List (String × String)) : Zone :=
  let z := mx.foldl (fun z (name, hosts) => z.withMx name hosts) {}
  let z := txt.foldl (fun z (name, records) => z.withTxt name records) z
  failing.foldl (fun z (name, reason) => z.withError name reason) z

def answer (z : Zone) (table : Keyed (List String)) (name : String) :
    Except LookupError (List String) :=
  match z.failing.get? (HostName.normalize name) with
  | some reason => .error ⟨name, reason⟩
  | none => .ok ((table.get? (HostName.normalize name)).getD [])

def mxOf (z : Zone) (name : String) : Except LookupError (List String) := z.answer z.mx name

def txtOf (z : Zone) (name : String) : Except LookupError (List String) := z.answer z.txt name

end Zone

end MailAudit.Dns
