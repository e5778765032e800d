import MailAudit.Text.Decimal

/-!
JSON values. A string whose escapes leave half of a surrogate pair alone has no text and is
`none`. -/

namespace MailAudit

structure Numeral where
  negative : Bool
  whole : List Char
  fraction : List Char
  exponent : Option Int
  deriving DecidableEq, Repr

namespace Numeral

def ofNat (n : Nat) : Numeral :=
  ⟨false, Text.Decimal.digits n, [], none⟩

def word? (n : Numeral) : Option Nat :=
  if n.negative || !n.fraction.isEmpty || n.exponent.isSome then none
  else (Text.Decimal.readDigits? n.whole).filter (· ≤ Text.Decimal.maxWord)

end Numeral

inductive Json where
  | null
  | bool (value : Bool)
  | number (value : Numeral)
  | string (value : Option String)
  | array (elements : List Json)
  | object (members : List (Option String × Json))
  deriving Repr

namespace Json

def text (s : String) : Json := .string (some s)

def nat (n : Nat) : Json := .number (.ofNat n)

def member (name : String) (value : Json) : Option String × Json := (some name, value)

def texts (ss : List String) : Json := .array (ss.map text)

mutual

def depth : Json → Nat
  | .array elements => depthOfElements elements + 1
  | .object members => depthOfMembers members + 1
  | _ => 0

def depthOfElements : List Json → Nat
  | [] => 0
  | element :: rest => max (depth element) (depthOfElements rest)

def depthOfMembers : List (Option String × Json) → Nat
  | [] => 0
  | (_, value) :: rest => max (depth value) (depthOfMembers rest)

end

end Json

end MailAudit
