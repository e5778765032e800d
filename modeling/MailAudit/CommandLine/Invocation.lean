import MailAudit.CommandLine.Grammar
import MailAudit.Settings

namespace MailAudit.CommandLine

inductive OutputFormat where
  | totals
  | jsonl
  deriving DecidableEq, Repr

namespace OutputFormat

def ofWord? (w : String) : Option OutputFormat :=
  if w = "totals" then some totals else if w = "jsonl" then some jsonl else none

end OutputFormat

structure ScanRequest where
  file : String
  column : Nat
  hasHeaders : Bool
  output : OutputFormat
  source : Option String
  deriving DecidableEq, Repr

inductive Command where
  | check (domains : List String) (policyList : Option String)
  | scan (request : ScanRequest)
  | validate (policies : String) (intervalSeconds : Nat) (name : String)
  deriving DecidableEq, Repr

structure Invocation where
  settings : Settings
  command : Command
  notes : List Note
  deriving Repr

def usualIntervalSeconds : Nat := 24 * 60 * 60

structure Draft where
  settings : Settings := {}
  poolText : Option String := none
  domains : List String := []
  policyList : Option String := none
  path : String := ""
  column : Nat := 0
  hasHeaders : Bool := false
  output : OutputFormat := .totals
  source : Option String := none
  intervalSeconds : Nat := usualIntervalSeconds
  name : String := "policy-list"

namespace Draft

def text (set : String → Draft → Draft) : Reader Draft := fun v => .ok (set v)

def filePath (set : String → Draft → Draft) : Reader Draft := fun v =>
  if v.isEmpty then .error .invalidValue else .ok (set v)

def word {β : Type} (ofWord? : String → Option β) (set : β → Draft → Draft) :
    Reader Draft := fun v =>
  match ofWord? v with
  | some x => .ok (set x)
  | none => .error .invalidValue

def count (set : Nat → Draft → Draft) : Reader Draft := fun v =>
  match Text.Decimal.read? Text.Decimal.maxWord v.toList with
  | some n => .ok (set n)
  | none => .error .malformedValue

/-- A port may be written as a negative zero. -/
def port? (cs : List Char) : Option Nat :=
  match cs with
  | '-' :: digits => (Text.Decimal.readDigits? digits).filter (· = 0)
  | cs => Text.Decimal.read? Settings.largestPort cs

def port (set : Nat → Draft → Draft) : Reader Draft := fun v =>
  match port? v.toList with
  | some n => .ok (set n)
  | none => .error .malformedValue

def setting {β : Type} (change : β → Settings → Settings) (x : β) (d : Draft) : Draft :=
  { d with settings := change x d.settings }

end Draft

open Draft

def sharedOptions : List (Opt Draft) :=
  [⟨"log-level", .value (word Log.Level.ofWord? (setting fun x s => { s with logLevel := x }))⟩,
    ⟨"log-format", .value (word LogFormat.ofWord? (setting fun x s => { s with logFormat := x }))⟩,
    ⟨"timeout-seconds", .value (count (setting fun n s => { s with timeoutSeconds := n }))⟩,
    ⟨"pool-size", .value (text fun v d => { d with poolText := some v })⟩,
    ⟨"hostname-concurrency", .value (count (setting fun n s => { s with hostConcurrency := n }))⟩,
    ⟨"cache-expiry-seconds",
      .value (count (setting fun n s => { s with cacheExpirySeconds := n }))⟩,
    ⟨"cache-db", .value (filePath (setting fun v s => { s with cacheFile := some v }))⟩,
    ⟨"smtp-port", .value (port (setting fun n s => { s with smtpPort := n }))⟩,
    ⟨"ehlo-hostname", .value (text (setting fun v s => { s with ehloName := v }))⟩,
    ⟨"mta-sts-policy-url", .value (text (setting fun v s => { s with policyUrl := v }))⟩]

inductive Subcommand where
  | check
  | scan
  | validate
  deriving DecidableEq, Repr

namespace Subcommand

def name : Subcommand → String
  | check => "check"
  | scan => "scan"
  | validate => "validate"

def all : List Subcommand := [check, scan, validate]

def ofName? (name : String) : Option Subcommand := all.find? fun c => c.name == name

def ownOptions : Subcommand → List (Opt Draft)
  | check => [⟨"policy-list", .value (filePath fun v d => { d with policyList := some v })⟩]
  | scan =>
      [⟨"column", .value (count fun n d => { d with column := n })⟩,
        ⟨"has-headers", .flag fun d => { d with hasHeaders := true }⟩,
        ⟨"output", .value (word OutputFormat.ofWord? fun x d => { d with output := x })⟩,
        ⟨"source", .value (text fun v d => { d with source := some v })⟩]
  | validate =>
      [⟨"interval-seconds", .value (count fun n d => { d with intervalSeconds := n })⟩,
        ⟨"name", .value (text fun v d => { d with name := v })⟩]

def operand : Subcommand → Operand Draft
  | check => ⟨true, text fun v d => { d with domains := d.domains ++ [v] }⟩
  | scan => ⟨false, filePath fun v d => { d with path := v }⟩
  | validate => ⟨false, filePath fun v d => { d with path := v }⟩

def grammar (c : Subcommand) : Grammar Draft :=
  { options := sharedOptions ++ c.ownOptions, operand := some c.operand }

def command (c : Subcommand) (d : Draft) : Command :=
  match c with
  | check => .check d.domains d.policyList
  | scan => .scan ⟨d.path, d.column, d.hasHeaders, d.output, d.source⟩
  | validate => .validate d.path d.intervalSeconds d.name

end Subcommand

def helpName : String := "help"

def grammar : Grammar Draft :=
  { options := sharedOptions, subcommands := Subcommand.all.map Subcommand.name ++ [helpName]
    hasVersion := true }

def helpOn : List String → Refusal
  | [] => .help
  | [topic] => if grammar.subcommands.contains topic then .help else .unknownSubcommand
  | _ => .unknownSubcommand

def readSubcommand (c : Subcommand) (args : List String) : Except Refusal (Level Draft) := do
  let (l, _) ← Level.read c.grammar {} args
  let l ← l.settle
  if l.given.contains none then .ok l else .error .missingArgument

namespace Invocation

/-- The pool size comes as text, and is replaced by the usual one if it makes no sense. -/
def ofDraft (c : Subcommand) (d : Draft) : Invocation :=
  let (poolSize, notes) := PoolSize.ofText d.poolText
  ⟨{ d.settings with poolSize }, c.command d, notes⟩

/-- Reads the arguments behind the program's name. Of an option given both before and behind the
subcommand, the latter counts; a pool size from the environment counts if there is no other. -/
def read (args : List String) (environmentPool : Option String) : Except Refusal Invocation := do
  let (top, sub) ← Level.read grammar {} args
  match sub with
  | none =>
      let top ← top.settle
      if top.given.isEmpty && environmentPool.isNone then .error .noArguments
      else .error .missingSubcommand
  | some (name, rest) =>
      match Subcommand.ofName? name with
      | none => .error (helpOn rest)
      | some c =>
          let own ← readSubcommand c rest
          let top ← top.settle
          .ok (ofDraft c (own.apply (top.apply { poolText := environmentPool })))

end Invocation

end MailAudit.CommandLine
