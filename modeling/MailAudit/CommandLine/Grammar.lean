import MailAudit.Text.Blank

/-! Arguments of a command: long options, with or without a value, and operands. An argument is read
as it comes, but the values of an option are judged only when the next one begins or the arguments
end. -/

namespace MailAudit.CommandLine

inductive Refusal where
  | help
  | version
  | noArguments
  | missingSubcommand
  | missingArgument
  | unknownSubcommand
  | unknownArgument
  | invalidValue
  | malformedValue
  | unexpectedValue
  | repeated
  deriving DecidableEq, Repr

abbrev Reader (α : Type) := String → Except Refusal (α → α)

inductive Effect (α : Type) where
  | flag (set : α → α)
  | value (read : Reader α)

structure Opt (α : Type) where
  name : String
  effect : Effect α

structure Operand (α : Type) where
  many : Bool
  read : Reader α

structure Grammar (α : Type) where
  options : List (Opt α)
  operand : Option (Operand α) := none
  subcommands : List String := []
  hasVersion : Bool := false

/-- An option or, without a name, the operand, with values that have not been judged. -/
structure Pending (α : Type) where
  name : Option String
  repeatable : Bool
  read : Reader α
  values : List String

/-- What has been read of the arguments of one command; the latest update comes first. -/
structure Level (α : Type) where
  updates : List (α → α) := []
  given : List (Option String) := []
  operandTaken : Bool := false
  pending : Option (Pending α) := none
  awaiting : Bool := false
  trailing : Bool := false

namespace Level

variable {α : Type}

def readAll (read : Reader α) (updates : List (α → α)) : List String → Except Refusal (List (α → α))
  | [] => .ok updates
  | v :: rest => do readAll read ((← read v) :: updates) rest

def accept (l : Level α) (p : Pending α) : Except Refusal (Level α) :=
  if p.values.isEmpty then .error .invalidValue
  else if !p.repeatable && l.given.contains p.name then .error .repeated
  else do
    let updates ← readAll p.read l.updates p.values
    .ok { l with updates, given := p.name :: l.given }

def settle (l : Level α) : Except Refusal (Level α) :=
  match l.pending with
  | none => .ok l
  | some p => { l with pending := none, awaiting := false }.accept p

def refuse (l : Level α) (r : Refusal) : Except Refusal (Level α) := do
  let _ ← l.settle
  .error r

def raiseFlag (l : Level α) (name : String) (set : α → α) : Except Refusal (Level α) := do
  let l ← l.settle
  if l.given.contains (some name) then .error .repeated
  else .ok { l with updates := set :: l.updates, given := some name :: l.given }

def option (l : Level α) (name : String) (read : Reader α) (value : Option String) :
    Except Refusal (Level α) := do
  let l ← l.settle
  let p : Pending α := ⟨some name, false, read, value.toList⟩
  match value with
  | some _ => l.accept p
  | none => .ok { l with pending := some p, awaiting := true }

def long (g : Grammar α) (l : Level α) (text : List Char) : Except Refusal (Level α) :=
  let (name, value) := match Text.splitOnce '=' text with
    | some (name, value) => (String.ofList name, some (String.ofList value))
    | none => (String.ofList text, none)
  let flagOnly (next : Except Refusal (Level α)) : Except Refusal (Level α) :=
    if value.isSome then .error .unexpectedValue else next
  match g.options.find? fun o => o.name == name with
  | some ⟨_, .flag set⟩ => flagOnly (l.raiseFlag name set)
  | some ⟨_, .value read⟩ => l.option name read value
  | none =>
      if name = "help" then flagOnly (l.refuse .help)
      else if g.hasVersion && name == "version" then flagOnly (l.refuse .version)
      else .error .unknownArgument

def short (g : Grammar α) (l : Level α) (letter : Char) : Except Refusal (Level α) :=
  if letter = 'h' then l.refuse .help
  else if g.hasVersion && letter == 'V' then l.refuse .version
  else .error .unknownArgument

def misplaced (g : Grammar α) (l : Level α) (arg : String) : Refusal :=
  if g.subcommands.isEmpty then .unknownArgument
  else if l.trailing && g.subcommands.contains arg then .unknownArgument
  else .unknownSubcommand

def addOperand (g : Grammar α) (l : Level α) (arg : String) : Except Refusal (Level α) :=
  match g.operand with
  | none => .error (l.misplaced g arg)
  | some operand =>
      if l.operandTaken && !operand.many then .error (l.misplaced g arg)
      else
        match l.pending with
        | some ⟨none, repeatable, read, values⟩ =>
            .ok { l with pending := some ⟨none, repeatable, read, values ++ [arg]⟩ }
        | _ => do
            let l ← l.settle
            .ok { l with
                  operandTaken := true
                  pending := some ⟨none, operand.many, operand.read, [arg]⟩ }

def plain (g : Grammar α) (l : Level α) (arg : String) : Except Refusal (Level α) :=
  match l.awaiting, l.pending with
  | true, some p =>
      .ok { l with awaiting := false, pending := some { p with values := p.values ++ [arg] } }
  | _, _ => l.addOperand g arg

def add (g : Grammar α) (l : Level α) (arg : String) : Except Refusal (Level α) :=
  if l.trailing then l.addOperand g arg
  else
    match arg.toList with
    | ['-', '-'] => .ok { l with trailing := true, awaiting := false }
    | '-' :: '-' :: text => l.long g text
    | '-' :: letter :: _ => l.short g letter
    | _ => l.plain g arg

def read (g : Grammar α) (l : Level α) :
    List String → Except Refusal (Level α × Option (String × List String))
  | [] => .ok (l, none)
  | arg :: rest =>
      if !l.trailing && !l.awaiting && g.subcommands.contains arg then .ok (l, some (arg, rest))
      else do (← l.add g arg).read g rest

def apply (l : Level α) (draft : α) : α := l.updates.foldr (fun update d => update d) draft

end Level

end MailAudit.CommandLine
