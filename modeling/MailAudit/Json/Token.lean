import MailAudit.Json.Value
import MailAudit.Text.Utf16

namespace MailAudit.Json

inductive Token where
  | openArray
  | closeArray
  | openObject
  | closeObject
  | comma
  | colon
  | literal (value : Json)
  | string (value : Option String)
  deriving Repr

inductive Mode where
  | between
  | inWord (read : List Char)
  | inNumber (read : List Char)
  | inString (read : List Text.Utf16.Unit)
  | escaped (read : List Text.Utf16.Unit)
  | inCode (read : List Text.Utf16.Unit) (digits : Nat) (value : Nat)
  deriving DecidableEq, Repr

def isSpace (c : Char) : Bool :=
  c = ' ' || c = '\n' || c = '\t' || c = '\r'

def isWordChar (c : Char) : Bool := 'a' ≤ c && c ≤ 'z'

def isNumberChar (c : Char) : Bool :=
  Text.Decimal.isDigit c || c = '+' || c = '-' || c = '.' || c = 'e' || c = 'E'

def wordToken? (word : List Char) : Option Token :=
  if word = "null".toList then some (.literal .null)
  else if word = "true".toList then some (.literal (.bool true))
  else if word = "false".toList then some (.literal (.bool false))
  else none

def signedExponent? (cs : List Char) : Option Int :=
  match cs with
  | '+' :: digits => (Text.Decimal.readDigits? digits).map Int.ofNat
  | '-' :: digits => (Text.Decimal.readDigits? digits).map fun n => -Int.ofNat n
  | digits => (Text.Decimal.readDigits? digits).map Int.ofNat

def isWhole (digits : List Char) : Bool :=
  !digits.isEmpty && (digits.length == 1 || digits.head? != some '0')

def numeral? (cs : List Char) : Option Numeral := do
  let (negative, cs) := match cs with
    | '-' :: rest => (true, rest)
    | other => (false, other)
  let whole := cs.takeWhile Text.Decimal.isDigit
  guard (isWhole whole)
  let rest := cs.dropWhile Text.Decimal.isDigit
  let (fraction, rest) ← match rest with
    | '.' :: more =>
        let digits := more.takeWhile Text.Decimal.isDigit
        if digits.isEmpty then none else some (digits, more.dropWhile Text.Decimal.isDigit)
    | other => some ([], other)
  match rest with
  | [] => some ⟨negative, whole, fraction, none⟩
  | e :: more =>
      if e = 'e' || e = 'E' then
        (signedExponent? more).map fun exponent => ⟨negative, whole, fraction, some exponent⟩
      else none

def numberToken? (read : List Char) : Option Token :=
  (numeral? read.reverse).map fun n => .literal (.number n)

def hexDigit? (c : Char) : Option Nat :=
  if '0' ≤ c && c ≤ '9' then some (c.toNat - '0'.toNat)
  else if 'a' ≤ c && c ≤ 'f' then some (c.toNat - 'a'.toNat + 10)
  else if 'A' ≤ c && c ≤ 'F' then some (c.toNat - 'A'.toNat + 10)
  else none

def unescape? (c : Char) : Option Char :=
  if c = '"' || c = '\\' || c = '/' then some c
  else if c = 'b' then some '\x08'
  else if c = 'f' then some '\x0c'
  else if c = 'n' then some '\n'
  else if c = 'r' then some '\r'
  else if c = 't' then some '\t'
  else none

def stepBetween (c : Char) : Option (List Token × Mode) :=
  if isSpace c then some ([], .between)
  else if c = '[' then some ([.openArray], .between)
  else if c = ']' then some ([.closeArray], .between)
  else if c = '\x7b' then some ([.openObject], .between)
  else if c = '\x7d' then some ([.closeObject], .between)
  else if c = ',' then some ([.comma], .between)
  else if c = ':' then some ([.colon], .between)
  else if c = '"' then some ([], .inString [])
  else if c = '-' || Text.Decimal.isDigit c then some ([], .inNumber [c])
  else if isWordChar c then some ([], .inWord [c])
  else none

/-- Ends a token that only the next character can end. -/
def stepAfter (token? : Option Token) (c : Char) : Option (List Token × Mode) := do
  let token ← token?
  let (tokens, mode) ← stepBetween c
  some (token :: tokens, mode)

def step : Mode → Char → Option (List Token × Mode)
  | .between, c => stepBetween c
  | .inWord read, c =>
      if isWordChar c then some ([], .inWord (c :: read))
      else stepAfter (wordToken? read.reverse) c
  | .inNumber read, c =>
      if isNumberChar c then some ([], .inNumber (c :: read))
      else stepAfter (numberToken? read) c
  | .inString read, c =>
      if c = '"' then some ([.string ((Text.Utf16.join? read.reverse).map String.ofList)], .between)
      else if c = '\\' then some ([], .escaped read)
      else if c.toNat < 0x20 then none
      else some ([], .inString (.char c :: read))
  | .escaped read, c =>
      if c = 'u' then some ([], .inCode read 0 0)
      else (unescape? c).map fun d => ([], .inString (.char d :: read))
  | .inCode read digits value, c =>
      (hexDigit? c).map fun d =>
        let value := 16 * value + d
        if digits = 3 then ([], .inString (.code value :: read))
        else ([], .inCode read (digits + 1) value)

def finish : Mode → Option (List Token)
  | .between => some []
  | .inWord read => (wordToken? read.reverse).map ([·])
  | .inNumber read => (numberToken? read).map ([·])
  | _ => none

def tokensFrom : Mode → List Char → Option (List Token)
  | mode, [] => finish mode
  | mode, c :: cs => do
      let (tokens, mode) ← step mode c
      let rest ← tokensFrom mode cs
      some (tokens ++ rest)

def tokens? (s : String) : Option (List Token) :=
  tokensFrom .between s.toList

end MailAudit.Json
