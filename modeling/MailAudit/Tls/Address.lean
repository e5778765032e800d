import MailAudit.Text.Decimal

namespace MailAudit

/-- Four numbers below 2^8, or eight below 2^16. -/
inductive Address where
  | v4 (octets : List Nat)
  | v6 (groups : List Nat)
  deriving DecidableEq, Repr

namespace Address

open MailAudit.Text

def octet? (cs : List Char) : Option Nat :=
  if 3 < cs.length || (cs.head? == some '0' && cs.length != 1) then none
  else (Decimal.readDigits? cs).filter (· ≤ 255)

def octets? (cs : List Char) : Option (List Nat) :=
  let parts := splitAll '.' cs
  if parts.length = 4 then parts.mapM octet? else none

def hexValue? (c : Char) : Option Nat :=
  if '0' ≤ c && c ≤ '9' then some (c.toNat - '0'.toNat)
  else if 'a' ≤ c.toLower && c.toLower ≤ 'f' then some (c.toLower.toNat - 'a'.toNat + 10)
  else none

def group? (cs : List Char) : Option Nat :=
  if cs.isEmpty || 4 < cs.length then none
  else (cs.mapM hexValue?).map fun ds => ds.foldl (fun n d => 16 * n + d) 0

/-- Groups between colons; the last part may be four octets, which make two groups. -/
def groups? (octetsAtEnd : Bool) : List (List Char) → Option (List Nat)
  | [] => some []
  | [last] =>
      match octetsAtEnd, octets? last with
      | true, some [a, b, c, d] => some [256 * a + b, 256 * c + d]
      | _, _ => (group? last).map ([·])
  | part :: rest => do
      let group ← group? part
      let groups ← groups? octetsAtEnd rest
      some (group :: groups)

def groupsIn? (octetsAtEnd : Bool) (cs : List Char) : Option (List Nat) :=
  if cs.isEmpty then some [] else groups? octetsAtEnd (splitAll ':' cs)

def splitDouble : List Char → Option (List Char × List Char)
  | ':' :: ':' :: rest => some ([], rest)
  | c :: rest => (splitDouble rest).map fun (before, after) => (c :: before, after)
  | [] => none

/-- Eight groups, or fewer around a double colon that stands for at least one group of zero. -/
def v6? (cs : List Char) : Option (List Nat) :=
  match splitDouble cs with
  | none => (groupsIn? true cs).filter fun groups => groups.length = 8
  | some (before, after) => do
      let front ← groupsIn? false before
      let back ← groupsIn? true after
      if front.length + back.length ≤ 7 then
        some (front ++ List.replicate (8 - front.length - back.length) 0 ++ back)
      else none

def ofChars? (cs : List Char) : Option Address :=
  match octets? cs with
  | some octets => some (.v4 octets)
  | none => (v6? cs).map .v6

end Address

end MailAudit
