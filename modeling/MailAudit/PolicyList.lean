import MailAudit.Check
import MailAudit.Network
import MailAudit.Json.Magnitude
import MailAudit.Scans.StoreError

namespace MailAudit

structure PolicyList where
  names : List String
  deriving DecidableEq, Repr

namespace PolicyList

def ofNames (names : List String) : PolicyList :=
  ⟨(names.map HostName.normalize).eraseDups⟩

def contains (l : PolicyList) (domain : String) : Bool :=
  l.names.contains (HostName.normalize domain)

def size (l : PolicyList) : Nat := l.names.length

def isEmpty (l : PolicyList) : Bool := l.names.isEmpty

def membership (l : PolicyList) (domain : String) : Check :=
  if l.contains domain then .pass Check.policyList
  else .fail Check.policyList s!"Domain {HostName.normalize domain} is not on the policy list"

mutual

def isSound : Nat → Json → Bool
  | _, .null => true
  | _, .bool _ => true
  | _, .number n => n.isFinite
  | _, .string s => s.isSome
  | budget, .array elements => budget != 0 && areSound (budget - 1) elements
  | budget, .object members => budget != 0 && membersAreSound (budget - 1) members

def areSound : Nat → List Json → Bool
  | _, [] => true
  | budget, v :: rest => isSound budget v && areSound budget rest

def membersAreSound : Nat → List (Option String × Json) → Bool
  | _, [] => true
  | budget, (name, v) :: rest => name.isSome && isSound budget v && membersAreSound budget rest

end

def policiesMembers (members : List (Option String × Json)) : List Json :=
  (members.filter fun (name, _) => name == some "policies").map (·.2)

def namesOfJson? : Json → Option (List String)
  | .array elements => elements.mapM Json.string?
  | .object members =>
      match policiesMembers members with
      | [.object policies] => policies.mapM (·.1)
      | _ => none
  | _ => none

def ofJson (source : String) : Except StoreError PolicyList :=
  let names? := ((Json.parse? source).filter (isSound Json.nestingLimit)).bind namesOfJson?
  match names? with
  | some names => .ok (ofNames names)
  | none => .error (.serialization "not a policy list")

end PolicyList

end MailAudit
