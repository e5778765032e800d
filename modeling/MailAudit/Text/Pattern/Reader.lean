import MailAudit.Text.Alphanumeric
import MailAudit.Text.Pattern.Bracket

/-! Patterns as they are written: `|` for a choice, `*`, `+`, `?` and braces for repetition,
parentheses for groups, brackets for classes of characters, a backslash for what has no sign of its
own. -/

namespace MailAudit.Text.Pattern

/-- A group so far: its finished choices, and the parts of the present one in reverse, of which a
setting of flags is none. Behind the group the flags are again as they were. -/
structure Group where
  choices : List Pattern := []
  parts : List (Option Pattern) := []
  opened : Span := ⟨0, 0⟩
  flags : Flags := {}
  deriving Repr

namespace Group

def add (g : Group) (p : Option Pattern) : Group := { g with parts := p :: g.parts }

def sequenceOf (parts : List Pattern) : Pattern :=
  parts.foldl (fun behind p => if behind = nothing then p else sequence p behind) nothing

def choose (g : Group) : Group :=
  { g with choices := g.choices ++ [sequenceOf (g.parts.filterMap id)], parts := [] }

def close (g : Group) : Pattern :=
  match g.choose.choices with
  | [] => nothing
  | first :: rest => rest.foldl either first

end Group

def setFlag (c : Char) (on : Bool) (f : Flags) : Option Flags :=
  match c with
  | 'i' => some { f with anyCase := on }
  | 'm' => some { f with lines := on }
  | 's' => some { f with dotAll := on }
  | 'R' => some { f with returns := on }
  | 'u' => some { f with ascii := !on }
  | 'x' => some { f with spaced := on }
  | 'U' => some f
  | _ => none

def isNameChar (isFirst : Bool) (c : Char) : Bool :=
  c = '_' ||
    if isFirst then isAlphabetic c else c = '.' || c = '[' || c = ']' || isAlphanumeric c

namespace Scan

/-- Flags, each given once; those behind a hyphen are taken away. `given` are the signs so far with
their spans. -/
def flagsFrom (given : List (Char × Span)) (f : Flags) : (limit : Nat) → Scan Flags
  | 0 => return f
  | limit + 1 => do
      let here ← span
      match ← peek? with
      | none => fault .flagEnd (← spot)
      | some c =>
          if c = ':' || c = ')' then
            match given with
            | ('-', hyphen) :: _ => fault .danglingNegation hyphen
            | _ => return f
          else
            let known := if c = '-' then some f else setFlag c (given.all (·.1 != '-')) f
            let f ← match known with
              | some f => pure f
              | none => fault .flag here
            match given.lookup c with
            | some first =>
                throw ⟨if c = '-' then .repeatedNegation else .repeatedFlag, [here, first]⟩
            | none =>
                pass
                if (← peek?).isNone then fault .flagEnd (← spot)
                flagsFrom ((c, here) :: given) f limit

def groupName : Scan Unit := do
  let start ← place
  let text ← rest
  let name := match text with
    | [] => []
    | first :: more =>
        if isNameChar true first then first :: more.takeWhile (isNameChar false) else []
  passAll name.length
  match ← peek? with
  | none => fault .openGroupName (← spot)
  | some c =>
      if c != '>' then fault .groupName (← span)
      let own ← since start
      pass
      if name.isEmpty then fault .emptyGroupName own
      let name := String.ofList name
      match (← get).names.lookup name with
      | some first => throw ⟨.repeatedGroupName, [own, first]⟩
      | none => modify fun c => { c with names := (name, own) :: c.names }

def lookAround : Scan Bool := passAny ["?=", "?!", "?<=", "?<!"]

def openGroup? : Scan (Option Group) := do
  let around ← flags
  let opened ← span
  pass
  passSpace
  if ← lookAround then fault .lookAround (← since opened.start)
  let inner ← spot
  let group : Group := { opened, flags := around }
  if ← passAny ["?P<", "?<"] then
    groupName
    return some group
  else
    let hasFlags ← passText "?"
    if !hasFlags then return some group
    if (← peek?).isNone then fault .openGroup opened
    let before ← place
    let f ← flagsFrom [] around ((← rest).length + 1)
    let isEmpty := (← place) == before
    let last ← peek?
    pass
    if last == some ')' && isEmpty then fault .nothingToRepeat inner
    modify fun c => { c with flags := f }
    return if last == some ')' then none else some group

def passBlanks : Scan Unit := do
  let cs ← rest
  passAll (cs.length - (trimStart cs).length)

def count : Scan (Except ReadError Nat) := do
  passBlanks
  let start ← place
  let digits ← takeWhile Decimal.isDigit
  let own ← since start
  passBlanks
  let n := Decimal.value digits
  if digits.isEmpty then return .error ⟨.count, [own]⟩
  else if 4294967295 < n then return .error ⟨.largeCount, [own]⟩
  else return .ok n

def upperBound (start : Nat) (least : Except ReadError Nat) : Scan (Nat × Option Nat) := do
  if (← peek?) != some ',' then
    let n ← least
    return (n, some n)
  else
    match ← passOn? with
    | none => fault .openCount (← since start)
    | some '\x7d' => return (← least, none)
    | some _ =>
        let n ← least
        let most ← count
        return (n, some (← most))

def bounds : Scan (Nat × Option Nat) := do
  let start ← place
  if (← passOn?).isNone then fault .openCount (← since start)
  let least ← count
  if (← peek?).isNone then fault .openCount (← since start)
  let (least, most) ← upperBound start least
  if (← peek?) != some '\x7d' then fault .openCount (← since start)
  if (← passOn?) == some '?' then pass
  if most.any (· < least) then fault .countOrder (← since start)
  return (least, most)

/-- A sign of a repetition; one that prefers to be short fits the same texts. -/
def uncounted (least : Nat) (most : Option Nat) : Scan (Nat × Option Nat) := do
  pass
  if (← peek?) == some '?' then pass
  return (least, most)

/-- The bounds of a repetition whose sign comes next; `none` if no such sign comes. A repetition
needs something in front of it. -/
def repetition? (hasOperand : Bool) : Scan (Option (Nat × Option Nat)) := do
  let read (bounds : Scan (Nat × Option Nat)) : Scan (Option (Nat × Option Nat)) := do
    if !hasOperand then fault .nothingToRepeat (← spot)
    return some (← bounds)
  match ← peek? with
  | some '*' => read (uncounted 0 none)
  | some '+' => read (uncounted 1 none)
  | some '?' => read (uncounted 0 (some 1))
  | some '\x7b' => read bounds
  | _ => return none

def anyChar : Scan CharClass := do
  let f ← flags
  let start ← place
  pass
  if f.ascii then doubt .noText (← since start)
  return if f.dotAll then .all
    else if f.returns then .not (.either (.one '\n') (.one '\r'))
    else .not (.one '\n')

def sign (c : Char) : Scan Pattern := do
  let edge (plain ofLine : Edge) : Scan Pattern := do
    pass
    return .edge (if (← flags).lines then ofLine else plain)
  match c with
  | '.' => return .char (← anyChar)
  | '^' => edge .start .lineStart
  | '$' => edge .finish .lineFinish
  | '[' => return .char (← bracket)
  | '\\' =>
      match ← escape with
      | .literal c => return .char (← cased (.one c))
      | .members k => return .char (← cased k)
      | .edge e => return .edge e
  | c =>
      pass
      return .char (← cased (.one c))

def patternFrom : (limit : Nat) → Group → List Group → Scan Pattern
  | 0, g, _ => return g.close
  | limit + 1, g, outer => do
      passSpace
      match ← peek? with
      | none => if outer.isEmpty then return g.close else fault .openGroup g.opened
      | some '(' =>
          match ← openGroup? with
          | some inner => patternFrom limit inner (g :: outer)
          | none => patternFrom limit (g.add none) outer
      | some ')' =>
          match outer with
          | [] => fault .unopenedGroup (← span)
          | around :: outer =>
              modify fun c => { c with flags := g.flags }
              pass
              patternFrom limit (around.add (some g.close)) outer
      | some '|' =>
          pass
          patternFrom limit g.choose outer
      | some c =>
          let operand := g.parts.head?.join
          match ← repetition? operand.isSome with
          | none => patternFrom limit (g.add (some (← sign c))) outer
          | some (least, most) =>
              let repeats := operand.map fun p => repeated p least most
              patternFrom limit { g with parts := repeats :: g.parts.tail } outer

end Scan

def sizeLimit : Nat := 10485760

/-- About how many bytes it takes to recognize a character. -/
def classSize : CharClass → Nat
  | .range low high => if low = high then 32 else 64
  | .decimal => 4000
  | .blank => 800
  | .not k => classSize k + 500
  | .either a b => classSize a + classSize b
  | .anyCase k => 2 * classSize k
  | _ => 24000

def size : Pattern → Nat
  | nothing => 0
  | char k => classSize k
  | edge _ => 32
  | sequence a b => size a + size b
  | either a b => size a + size b + 32
  | repeated p least most => size p * most.getD (max 1 least) + 32

def read (text : String) : Except String Pattern :=
  let cs := text.toList
  match Scan.patternFrom (cs.length + 1) {} [] { rest := cs } with
  | .error e => .error (e.text text)
  | .ok (p, c) =>
      match c.doubt with
      | some e => .error (e.text text)
      | none =>
          if sizeLimit < size p then
            .error s!"Compiled regex exceeds size limit of {sizeLimit} bytes."
          else .ok p

end MailAudit.Text.Pattern
