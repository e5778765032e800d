import MailAudit.Text.Pattern.Escape

namespace MailAudit.Text.Pattern

structure Level where
  /-- The members of the class around it, in reverse. -/
  around : List CharClass
  negated : Bool
  opened : Span
  /-- What becomes of the members since the last operation. -/
  joined : CharClass → CharClass := id

def namedClasses : List (String × CharClass) :=
  let lower : CharClass := .range 'a' 'z'
  let upper : CharClass := .range 'A' 'Z'
  let letters : CharClass := .either lower upper
  [("alnum", .either letters asciiDigits), ("alpha", letters), ("ascii", .ascii),
    ("blank", .either (.one '\t') (.one ' ')),
    ("cntrl", .either (.range (Char.ofNat 0) '\x1f') (.one '\x7f')), ("digit", asciiDigits),
    ("graph", .range '!' '~'), ("lower", lower), ("print", .range ' ' '~'),
    ("punct", .ofList [.range '!' '/', .range ':' '@', .range '[' (Char.ofNat 96),
      .range '\x7b' '~']),
    ("space", asciiBlank), ("upper", upper), ("word", asciiWord),
    ("xdigit", .ofList [asciiDigits, .range 'a' 'f', .range 'A' 'F'])]

def namedClass? : List Char → Option (CharClass × Nat)
  | '[' :: ':' :: rest => do
      let (isNegated, rest) := match rest with
        | '^' :: rest => (true, rest)
        | rest => (false, rest)
      let name := rest.takeWhile (· != ':')
      guard ([':', ']'].isPrefixOf (rest.drop name.length))
      let k ← namedClasses.lookup (String.ofList name)
      some (if isNegated then .not k else k, name.length + (if isNegated then 5 else 4))
  | _ => none

def operation? : Char → Option (CharClass → CharClass → CharClass)
  | '&' => some CharClass.both
  | '-' => some CharClass.without
  | '~' => some CharClass.difference
  | _ => none

namespace Scan

def cased (k : CharClass) : Scan CharClass := return if (← flags).anyCase then .anyCase k else k

def member : Scan (Sign × Span) := do
  let start ← place
  match ← peek? with
  | none => fault .openClass (← spot)
  | some '\\' => return (← escape, ← since start)
  | some c =>
      pass
      return (.literal c, ← since start)

def memberClass (sign : Sign) (span : Span) : Scan CharClass :=
  match sign with
  | .literal c => cased (.one c)
  | .members k => cased k
  | .edge _ => fault .classMember span

def rangeEnd (sign : Sign) (span : Span) : Scan Char :=
  match sign with
  | .literal c => return c
  | _ => fault .classRangeEnd span

/-- A member, or a range up to another one. A hyphen before the closing bracket, or before another
hyphen, makes no range. -/
def memberOrRange (level : Level) : Scan CharClass := do
  let (first, span) ← member
  passSpace
  let next ← peek?
  if next.isNone then fault .openClass level.opened
  let after ← secondBeyondSpace?
  if next != some '-' || after == some ']' || after == some '-' then memberClass first span
  else
    if (← passOn?).isNone then fault .openClass level.opened
    let (last, lastSpan) ← member
    let low ← rangeEnd first span
    let high ← rangeEnd last lastSpan
    if high < low then fault .classRange ⟨span.start, lastSpan.stop⟩
    cased (.range low high)

/-- Hyphens at the beginning of a class are members. -/
def hyphens (start : Nat) : (limit : Nat) → List CharClass → Scan (List CharClass)
  | 0, members => return members
  | limit + 1, members => do
      if (← peek?) != some '-' then return members
      if (← passOn?).isNone then fault .openClass ⟨start, start⟩
      hyphens start limit (.one '-' :: members)

/-- The opening of a class, and its first members. A closing bracket that comes first is a
member. -/
def openClass (around : List CharClass) : Scan (Level × List CharClass) := do
  let start ← place
  let passIn : Scan Unit := do if (← passOn?).isNone then fault .openClass (← since start)
  passIn
  let isNegated := (← peek?) == some '^'
  if isNegated then passIn
  let members ← hyphens start (← rest).length []
  if members.isEmpty && (← peek?) == some ']' then
    passIn
    return (⟨around, isNegated, ← since start, id⟩, [.one ']'])
  else return (⟨around, isNegated, ← since start, id⟩, members)

def closeClass (level : Level) (members : List CharClass) : Scan CharClass := do
  pass
  let k := level.joined (.ofList members.reverse)
  if level.negated && (← flags).ascii then doubt .noText (← since level.opened.start)
  return if level.negated then .not k else k

def classFrom : (limit : Nat) → Level → List Level → List CharClass → Scan CharClass
  | 0, level, _, _ => fault .openClass level.opened
  | limit + 1, level, outer, members => do
      passSpace
      let text ← rest
      match text with
      | [] => fault .openClass level.opened
      | '[' :: _ =>
          match namedClass? text with
          | some (k, width) =>
              passAll width
              classFrom limit level outer ((← cased k) :: members)
          | none =>
              let (inner, first) ← openClass members
              classFrom limit inner (level :: outer) first
      | ']' :: _ =>
          let k ← closeClass level members
          match outer with
          | [] => return k
          | next :: outer => classFrom limit next outer (k :: level.around)
      | c :: rest =>
          match (operation? c).filter fun _ => rest.head? == some c with
          | some operation =>
              passAll 2
              let left := level.joined (.ofList members.reverse)
              classFrom limit { level with joined := operation left } outer []
          | none => classFrom limit level outer ((← memberOrRange level) :: members)

def bracket : Scan CharClass := do
  let (level, members) ← openClass []
  classFrom (← rest).length level [] members

end Scan

end MailAudit.Text.Pattern
