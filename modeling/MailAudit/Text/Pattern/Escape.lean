import MailAudit.Text.CharClass
import MailAudit.Text.Decimal
import MailAudit.Text.Pattern
import MailAudit.Text.Pattern.Cursor

namespace MailAudit.Text.Pattern

inductive Sign where
  | literal (c : Char)
  | members (k : CharClass)
  | edge (e : Edge)
  deriving DecidableEq, Repr

def specialChars : List Char := "\\.+*?()|[]\x7b\x7d^$#&-~".toList

def isEscapable (c : Char) : Bool :=
  specialChars.contains c || (c.toNat < 128 && !c.isAlphanum && c != '<' && c != '>')

def isHexDigit (c : Char) : Bool :=
  Decimal.isDigit c || ('a' ≤ c && c ≤ 'f') || ('A' ≤ c && c ≤ 'F')

def hexValue (cs : List Char) : Nat :=
  cs.foldl (fun n c =>
    let digit := if Decimal.isDigit c then Decimal.digitValue c
      else c.toLower.toNat - 'a'.toNat + 10
    16 * n + digit) 0

def properties : List (List String × CharClass) := [
    (["l", "letter", "alphabetic", "alpha"], .letter), (["m", "mark", "combiningmark"], .mark),
    (["n", "number"], .number), (["nd", "decimalnumber", "digit"], .decimal),
    (["whitespace", "space", "wspace"], .blank), (["any"], .all), (["ascii"], .ascii)]

def property? (name : List Char) : Option CharClass :=
  let plain := (name.filter fun c => !isBlank c && c != '_' && c != '-').map Char.toLower
  let plain := if "is".toList.isPrefixOf plain then plain.drop 2 else plain
  (properties.find? fun (names, _) => names.contains (String.ofList plain)).map (·.2)

def asciiDigits : CharClass := .range '0' '9'

def asciiWord : CharClass :=
  .ofList [.range 'a' 'z', .range 'A' 'Z', asciiDigits, .one '_']

def asciiBlank : CharClass := .ofList [.range '\t' '\r', .one ' ']

namespace Scan

def scalar (digits : List Char) (span : Span) : Scan Char :=
  let n := hexValue digits
  if n.isValidChar then return Char.ofNat n else fault .hexValue span

def hexDigits : (count : Nat) → Scan (List Char)
  | 0 => return []
  | count + 1 => do
      match ← passOn? with
      | none => fault .escapeEnd (← spot)
      | some c =>
          if isHexDigit c then return c :: (← hexDigits count) else fault .hexDigit (← span)

def fixedHex (width : Nat) (first : Char) : Scan Char := do
  let start ← place
  if !isHexDigit first then fault .hexDigit (← span)
  let digits := first :: (← hexDigits (width - 1))
  let _ ← passOn?
  scalar digits (← since start)

def bracedHex : Scan Char := do
  let opened ← place
  let _ ← passOn?
  let digits ← takeWhile isHexDigit
  match ← peek? with
  | none => fault .escapeEnd (← since opened)
  | some c =>
      if c != '\x7d' then fault .hexDigit (← span)
      let inner : Span := ⟨opened + 1, ← place⟩
      let _ ← passOn?
      if digits.isEmpty then fault .noHexDigit (← since opened)
      scalar digits inner

def hex (width : Nat) : Scan Char := do
  match ← passOn? with
  | none => fault .escapeEnd (← spot)
  | some c => if c = '\x7b' then bracedHex else fixedHex width c

def propertyName : Scan (List Char) := do
  match ← passOn? with
  | none => fault .escapeEnd (← spot)
  | some '\x7b' =>
      let _ ← passOn?
      let name ← takeWhile (· != '\x7d')
      if (← peek?).isNone then fault .escapeEnd (← spot)
      pass
      return name
  | some '\\' => fault .property (← span)
  | some c =>
      let _ ← passOn?
      return [c]

def property (start : Nat) (isNegated : Bool) : Scan CharClass := do
  let name ← propertyName
  match property? name with
  | none =>
      doubt .unknownProperty (← since start)
      return .empty
  | some k => return if isNegated then .not k else k

def common (start : Nat) (isNegated : Bool) (full ascii : CharClass) : Scan CharClass := do
  let isAscii := (← flags).ascii
  if isAscii && isNegated then doubt .noText (← since start)
  let k := if isAscii then ascii else full
  return if isNegated then .not k else k

def isWordEdgeChar (c : Char) : Bool := c.isAlpha || c = '-'

def wordEdges : List (String × Edge) :=
  [("start", .wordStart), ("end", .wordFinish), ("start-half", .halfStart),
    ("end-half", .halfFinish)]

def wordEdge (start : Nat) : Scan Edge := do
  let before ← get
  if (← peek?) != some '\x7b' then return .boundary
  let opened ← place
  match ← passOn? with
  | none => fault .wordEdgeEnd (← since start)
  | some c =>
      if !isWordEdgeChar c then
        set before
        return .boundary
      let inner ← place
      let name ← takeWhile isWordEdgeChar
      if (← peek?) != some '\x7d' then fault .openWordEdge (← since opened)
      let nameSpan ← since inner
      pass
      match wordEdges.lookup (String.ofList name) with
      | some e => return e
      | none => fault .wordEdge nameSpan

def simpleEscapes : List (Char × Char) :=
  [('a', '\x07'), ('f', '\x0c'), ('t', '\t'), ('n', '\n'), ('r', '\r'), ('v', '\x0b')]

def simpleEdges : List (Char × Edge) :=
  [('A', .start), ('z', .finish), ('B', .noBoundary), ('<', .wordStart), ('>', .wordFinish)]

def letterEscape (start : Nat) (c : Char) : Scan Sign := do
  pass
  if isEscapable c then return .literal c
  else if c = 'b' then return .edge (← wordEdge start)
  else
    match simpleEscapes.lookup c, simpleEdges.lookup c with
    | some c, _ => return .literal c
    | none, some e => return .edge e
    | none, none => fault .escape (← since start)

def escape : Scan Sign := do
  let start ← place
  pass
  let common (isNegated : Bool) (full ascii : CharClass) : Scan Sign := do
    pass
    return .members (← common start isNegated full ascii)
  match ← peek? with
  | none => fault .escapeEnd (← since start)
  | some 'x' => return .literal (← hex 2)
  | some 'u' => return .literal (← hex 4)
  | some 'U' => return .literal (← hex 8)
  | some 'p' => return .members (← property start false)
  | some 'P' => return .members (← property start true)
  | some 'd' => common false .decimal asciiDigits
  | some 'D' => common true .decimal asciiDigits
  | some 's' => common false .blank asciiBlank
  | some 'S' => common true .blank asciiBlank
  | some 'w' => common false .word asciiWord
  | some 'W' => common true .word asciiWord
  | some c =>
      if Decimal.isDigit c then fault .backReference ⟨start, (← place) + 1⟩
      else letterEscape start c

end Scan

end MailAudit.Text.Pattern
