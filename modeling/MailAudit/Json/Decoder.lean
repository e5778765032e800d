import MailAudit.Json.Value

namespace MailAudit.Json

def nestingLimit : Nat := 127

def string? : Json → Option String
  | .string s => s
  | _ => none

def word? : Json → Option Nat
  | .number n => n.word?
  | _ => none

/-- One of the words of an enumeration: a string, or an object whose only member is that word with
the value null. -/
def enumWord? (budget : Nat) : Json → Option String
  | .string s => s
  | .object [(some w, .null)] => if budget = 0 then none else some w
  | _ => none

/-- The members that have a known name. Every name must be a text, and no known name may repeat. -/
def knownMembers? (names : List String) :
    List (Option String × Json) → Option (List (String × Json))
  | [] => some []
  | (none, _) :: _ => none
  | (some name, v) :: rest => do
      let known ← knownMembers? names rest
      if name ∈ names then
        if known.any (·.1 == name) then none else some ((name, v) :: known)
      else some known

def fields? (names : List String) : Json → Option (List (String × Json))
  | .object members => knownMembers? names members
  | .array elements => if elements.length ≤ names.length then some (names.zip elements) else none
  | _ => none

def required? {α : Type} (fields : List (String × Json)) (name : String)
    (decode : Json → Option α) : Option α :=
  (fields.lookup name).bind decode

def defaulted? {α : Type} (fields : List (String × Json)) (name : String) (absent : α)
    (decode : Json → Option α) : Option α :=
  match fields.lookup name with
  | none => some absent
  | some v => decode v

def nullable? {α : Type} (fields : List (String × Json)) (name : String)
    (decode : Json → Option α) :
    Option (Option α) :=
  match fields.lookup name with
  | none => some none
  | some .null => some none
  | some v => (decode v).map some

def elements? : Nat → Json → Option (List Json)
  | _ + 1, .array elements => some elements
  | _, _ => none

def texts? (budget : Nat) (v : Json) : Option (List String) := do
  (← elements? budget v).mapM string?

/-- The members of an object that serves as a map: every name is a text, and names may repeat. -/
def entries? : Nat → Json → Option (List (String × Json))
  | _ + 1, .object members => members.mapM fun (name, v) => name.map fun name => (name, v)
  | _, _ => none

end MailAudit.Json
