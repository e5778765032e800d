import MailAudit.Json.Value

namespace MailAudit.Json

def hexByte (n : Nat) : List Char :=
  let digit (d : Nat) : Char := (Nat.toDigits 16 d).headD '0'
  [digit (n / 16 % 16), digit (n % 16)]

def escape? (c : Char) : Option (List Char) :=
  if c = '"' then some ['\\', '"']
  else if c = '\\' then some ['\\', '\\']
  else if c = '\x08' then some ['\\', 'b']
  else if c = '\x0c' then some ['\\', 'f']
  else if c = '\n' then some ['\\', 'n']
  else if c = '\r' then some ['\\', 'r']
  else if c = '\t' then some ['\\', 't']
  else if c.toNat < 0x20 then some ('\\' :: 'u' :: '0' :: '0' :: hexByte c.toNat)
  else none

def stringWrites (stretch : List Char) : List Char → List (List Char)
  | [] => if stretch.isEmpty then [] else [stretch.reverse]
  | c :: cs =>
      match escape? c with
      | none => stringWrites (c :: stretch) cs
      | some e =>
          if stretch.isEmpty then e :: stringWrites [] cs
          else stretch.reverse :: e :: stringWrites [] cs

/-- A string without a text is printed as half a surrogate pair. -/
def quotedWrites : Option String → List (List Char)
  | some s => ['"'] :: (stringWrites [] s.toList ++ [['"']])
  | none => [['"'], "\\ud800".toList, ['"']]

def numeralText (n : Numeral) : List Char :=
  let sign := if n.negative then ['-'] else []
  let fraction := if n.fraction.isEmpty then [] else '.' :: n.fraction
  let exponent := match n.exponent with
    | none => []
    | some e =>
        'e' :: ((if e < 0 then ['-'] else []) ++ Text.Decimal.digits e.natAbs)
  sign ++ n.whole ++ fraction ++ exponent

mutual

def writes : Json → List (List Char)
  | .null => ["null".toList]
  | .bool true => ["true".toList]
  | .bool false => ["false".toList]
  | .number n => [numeralText n]
  | .string s => quotedWrites s
  | .array elements => ['['] :: (elementWrites true elements ++ [[']']])
  | .object members => ['\x7b'] :: (memberWrites true members ++ [['\x7d']])

def elementWrites (first : Bool) : List Json → List (List Char)
  | [] => []
  | v :: rest => (if first then [] else [[',']]) ++ writes v ++ elementWrites false rest

def memberWrites (first : Bool) : List (Option String × Json) → List (List Char)
  | [] => []
  | (name, v) :: rest =>
      (if first then [] else [[',']]) ++ quotedWrites name ++ [':'] :: writes v ++
        memberWrites false rest

end

def print (v : Json) : String :=
  String.ofList (writes v).flatten

end MailAudit.Json
