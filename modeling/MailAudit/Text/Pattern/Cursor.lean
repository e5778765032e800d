import MailAudit.Text.Blank
import MailAudit.Text.Pattern.Fault

namespace MailAudit.Text.Pattern

structure Flags where
  anyCase : Bool := false
  lines : Bool := false
  dotAll : Bool := false
  returns : Bool := false
  ascii : Bool := false
  spaced : Bool := false
  deriving DecidableEq, Repr

/-- What is left of the text and how far into it that is, the flags, the names of groups, and the
first fault that shows only when the text makes sense otherwise. -/
structure Cursor where
  place : Nat := 0
  rest : List Char
  flags : Flags := {}
  names : List (String × Span) := []
  doubt : Option ReadError := none
  deriving Repr

def dropSpace : (inComment : Bool) → List Char → List Char
  | _, [] => []
  | true, c :: cs => dropSpace (c != '\n') cs
  | false, c :: cs =>
      if isBlank c then dropSpace false cs
      else if c = '#' then dropSpace true cs
      else c :: cs

abbrev Scan := StateT Cursor (Except ReadError)

namespace Scan

variable {α : Type}

def fault (f : Fault) (span : Span) : Scan α := throw ⟨f, [span]⟩

def doubt (f : Fault) (span : Span) : Scan Unit :=
  modify fun c => { c with doubt := c.doubt.or (some ⟨f, [span]⟩) }

def place : Scan Nat := return (← get).place

def flags : Scan Flags := return (← get).flags

def rest : Scan (List Char) := return (← get).rest

def peek? : Scan (Option Char) := return (← rest).head?

def since (start : Nat) : Scan Span := return ⟨start, ← place⟩

def spot : Scan Span := do since (← place)

def span : Scan Span := return ⟨← place, (← place) + 1⟩

def pass : Scan Unit :=
  modify fun c =>
    match c.rest with
    | [] => c
    | _ :: rest => { c with place := c.place + 1, rest }

def passAll (n : Nat) : Scan Unit :=
  modify fun c => { c with place := c.place + min n c.rest.length, rest := c.rest.drop n }

def passSpace : Scan Unit := do
  if (← flags).spaced then
    let cs ← rest
    passAll (cs.length - (dropSpace false cs).length)

def passOn? : Scan (Option Char) := do
  pass
  passSpace
  peek?

def passText (text : String) : Scan Bool := do
  if text.toList.isPrefixOf (← rest) then
    passAll text.length
    return true
  else return false

def passAny : List String → Scan Bool
  | [] => return false
  | text :: texts => do if ← passText text then return true else passAny texts

def secondBeyondSpace? : Scan (Option Char) := do
  let behind := (← rest).tail
  return (if (← flags).spaced then dropSpace false behind else behind).head?

def takeSpaced (p : Char → Bool) : (limit : Nat) → Scan (List Char)
  | 0 => return []
  | limit + 1 => do
      match (← rest).head?.filter p with
      | none => return []
      | some c =>
          let _ ← passOn?
          return c :: (← takeSpaced p limit)

def takeWhile (p : Char → Bool) : Scan (List Char) := do takeSpaced p (← rest).length

end Scan

end MailAudit.Text.Pattern
