import MailAudit.Dns.International
import MailAudit.Sum
import MailAudit.Text.Alphanumeric
import MailAudit.Text.Blank

namespace MailAudit.Dns

inductive NameError where
  | malformedLabel (label : String)
  | invalidCharacters
  | unrecognized (c : Char)
  | illegal (c : Char)
  | labelTooLong (length : Nat)
  | nameTooLong (length : Nat)
  deriving DecidableEq, Repr

namespace NameError

def message : NameError → String
  | malformedLabel label => s!"proto error: Malformed label: {label}"
  | invalidCharacters => "proto error: Label contains invalid characters: Err(Errors)"
  | unrecognized c => "proto error: unrecognized char: " ++ String.ofList [c]
  | illegal c => "proto error: illegal char: " ++ String.ofList [c]
  | labelTooLong length => s!"proto error: label bytes exceed 63: {length}"
  | nameTooLong length => s!"proto error: name label data exceed 255: {length}"

end NameError

namespace Name

def maxLabelLength : Nat := 63

def maxLength : Nat := 255

/-- Characters of a label on the wire; a hyphen is not the first of them, and an asterisk no
other. -/
def isLabelChar (isFirst : Bool) (c : Char) : Bool :=
  c.isAlphanum || c == '_' || c == '.' || c == (if isFirst then '*' else '-')

def plainLabel (text : List Char) : Except NameError (List Char) :=
  match text with
  | [] => .error (.malformedLabel "")
  | first :: rest =>
      if !isLabelChar true first || !rest.all (isLabelChar false) then
        .error (.malformedLabel (String.ofList text))
      else if maxLabelLength < text.length then .error (.labelTooLong text.length)
      else .ok text

/-- A label that starts with an underscore, and the one that stands for all labels, are taken as
they are. -/
def label (text : List Char) : Except NameError (List Char) :=
  if text = ['*'] || text.head? == some '_' then plainLabel text
  else
    match International.plain? text with
    | some text => plainLabel text
    | none => .error .invalidCharacters

def wireLength (labels : List (List Char)) : Nat :=
  sumOf (labels.map fun l => l.length + 1) + 1

def append (labels : List (List Char)) (text : List Char) :
    Except NameError (List (List Char)) := do
  let label ← label text
  let length := wireLength labels + label.length + 1
  if maxLength < length then .error (.nameTooLong length) else .ok (labels ++ [label])

inductive Mode where
  | plain
  | escaped
  | octal (digits value : Nat)
  deriving DecidableEq, Repr

def isControl (c : Char) : Bool := c.toNat < 32 || (127 ≤ c.toNat && c.toNat < 160)

def octalDigit (c : Char) : Except NameError Nat :=
  if '0' ≤ c && c ≤ '7' then .ok (c.toNat - '0'.toNat)
  else if Text.isNumeric c then .error (.illegal c)
  else .error (.unrecognized c)

/-- Reads on with the labels so far and the present one in reverse. A backslash stands before a
character to be taken as it is, or before three octal digits of its code point. -/
def labelsFrom (labels : List (List Char)) (current : List Char) :
    Mode → List Char → Except NameError (List (List Char))
  | _, [] => if current.isEmpty then .ok labels else append labels current.reverse
  | .plain, c :: cs =>
      if c = '.' then
        match append labels current.reverse with
        | .ok labels => labelsFrom labels [] .plain cs
        | .error e => .error e
      else if c = '\\' then labelsFrom labels current .escaped cs
      else if isControl c || Text.isBlank c then .error (.unrecognized c)
      else labelsFrom labels (c :: current) .plain cs
  | .escaped, c :: cs =>
      if Text.isNumeric c then
        match octalDigit c with
        | .ok d => labelsFrom labels current (.octal 1 d) cs
        | .error e => .error e
      else labelsFrom labels (c :: current) .plain cs
  | .octal digits value, c :: cs =>
      match octalDigit c with
      | .error e => .error e
      | .ok d =>
          let value := 8 * value + d
          if digits = 2 then labelsFrom labels (Char.ofNat value :: current) .plain cs
          else labelsFrom labels current (.octal (digits + 1) value) cs

def read (name : String) : Except NameError (List (List Char)) :=
  if name = "." then .ok [] else labelsFrom [] [] .plain name.toList

def longLoopbackZone : List String :=
  "1" :: List.replicate 31 "0" ++ ["ip6", "arpa"]

def reservedZones : List (List String) :=
  [["localhost"], ["127", "in-addr", "arpa"], longLoopbackZone, ["invalid"], ["onion"]]

def isReserved (labels : List (List Char)) : Bool :=
  let lowered := labels.map fun l => l.map Char.toLower
  reservedZones.any fun zone => (zone.map String.toList).isSuffixOf lowered

end Name

end MailAudit.Dns
