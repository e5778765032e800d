import MailAudit.Log
import MailAudit.Text.Pattern.Reader

namespace MailAudit.Log

/-- Sets the level for the targets that begin with a text, or for all; `none` shows nothing of
them. -/
structure Directive where
  target : Option String
  level : Option Level
  deriving DecidableEq, Repr

structure Filter where
  directives : List Directive := []
  pattern : Option Text.Pattern := none
  deriving Repr

namespace Directive

def levelWords : List (String × Option Level) :=
  ("off", none) :: Level.all.map fun level => (level.word, some level)

def level? (word : List Char) : Option (Option Level) :=
  levelWords.lookup (Text.lowerAscii (String.ofList word))

def covers (d : Directive) (target : String) : Bool :=
  d.target.all fun name => name.toList.isPrefixOf target.toList

def weight (d : Directive) : Nat := (d.target.getD "").utf8ByteSize

/-- A level, a target, or a target with a level; a target alone is shown on all levels. -/
def read (text : List Char) : Except String Directive :=
  let invalid (text : List Char) : Except String Directive :=
    .error s!"invalid logging spec '{String.ofList text}'"
  match Text.splitAll '=' text with
  | [only] =>
      match level? only with
      | some level => .ok ⟨none, level⟩
      | none => .ok ⟨some (String.ofList only), some .trace⟩
  | [target, word] =>
      let word := Text.trimChars word
      let target := some (String.ofList target)
      if word.isEmpty then .ok ⟨target, some .trace⟩
      else
        match level? word with
        | some level => .ok ⟨target, level⟩
        | none => invalid word
  | _ => invalid text

end Directive

namespace Filter

def set (f : Filter) (d : Directive) : Filter :=
  let directives :=
    if f.directives.any (·.target == d.target) then
      f.directives.map fun old => if old.target == d.target then d else old
    else f.directives ++ [d]
  { f with directives }

/-- Directives between commas, then perhaps a slash and a pattern. What makes no sense is left out
and reported. -/
def read (text : String) : Filter × List String :=
  let withDirectives (list : List Char) : Filter × List String :=
    (((Text.splitAll ',' list).map Text.trimChars).filter (!·.isEmpty)).foldl
      (fun (f, faults) part =>
        match Directive.read part with
        | .ok d => (f.set d, faults)
        | .error fault => (f, faults ++ [fault]))
      ({}, [])
  match Text.splitAll '/' text.toList with
  | [list] => withDirectives list
  | [list, pattern] =>
      let (f, faults) := withDirectives list
      match Text.Pattern.read (String.ofList pattern) with
      | .ok p => ({ f with pattern := some p }, faults)
      | .error fault => (f, faults ++ [s!"invalid regex filter - {fault}"])
  | _ => ({}, [s!"invalid logging spec '{text}' (too many '/'s)"])

/-- The level that the directive with the longest target sets; of equal ones the last. -/
def level (f : Filter) (target : String) : Option Level :=
  let covering := f.directives.filter (·.covers target)
  let best := covering.foldl
    (fun best d => if (best.map Directive.weight).all (· ≤ d.weight) then some d else best)
    (none : Option Directive)
  best.bind (·.level)

def shows (f : Filter) (e : Entry) : Bool :=
  (f.level e.area.target).any (e.level.rank ≤ ·.rank) &&
    f.pattern.all fun p => p.occursIn e.message

/-- The filter of a program with its own level, which goes before what a text says about the program
as a whole; and complaints about the text. -/
def ofSettings (level : Level) (text : Option String) : Filter × List String :=
  let (f, faults) := read (text.getD "")
  ((f.set ⟨none, some level⟩).set ⟨some Area.program.target, some level⟩,
    faults.map fun fault => s!"warning: {fault}, ignoring it")

end Filter

end MailAudit.Log
