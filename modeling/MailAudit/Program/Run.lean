import MailAudit.Batch.JsonLines
import MailAudit.Batch.Totals
import MailAudit.Batch.Window
import MailAudit.CommandLine.Invocation
import MailAudit.Log.Filter
import MailAudit.Log.Line
import MailAudit.PolicyList
import MailAudit.Program.Digest
import MailAudit.Program.Initialization
import MailAudit.Revalidation.Timer

namespace MailAudit.Program

open MailAudit.CommandLine

/-- Why a run ends early: what was being done, and the messages of the causes. What was printed
before remains. -/
structure Failure where
  chain : List String
  notes : List Note := []
  output : String := ""
  deriving Repr

namespace Failure

def ofChain (doing : String) (chain : List String) : Failure := { chain := doing :: chain }

def text (f : Failure) : String :=
  "starttls_check error: " ++ String.intercalate ": " f.chain

end Failure

structure Finished where
  output : String
  notes : List Note
  exitCode : Nat
  deriving Repr

def attempt {ε α : Type} (doing : String) (chain : ε → List String) (x : Except ε α) :
    Except Failure α :=
  x.mapError fun e => .ofChain doing (chain e)

def checkSettings (s : Settings) : Except Failure Unit :=
  attempt "Invalid configuration" (fun e => [e.message]) s.validate

structure Ready where
  services : Services
  world : World

def begin (m : Machine) (s : Settings) : Except Failure Ready := do
  let failed (notes : List Note) (e : InitializationError) : Failure :=
    { chain := "Failed to initialize domain checker" :: e.chain, notes }
  let roots ← (trustedRoots .publicWeb).mapError (failed [])
  let (store, notes) := m.openStore s
  let store ← store.mapError (failed notes)
  let world : World := World.note { cache := some ⟨store, s.cacheExpiry⟩ } notes
  .ok ⟨m.services s roots, world⟩

def membershipNote (list : PolicyList) (r : DomainReport) : Note :=
  let c := list.membership r.domain
  .log .info .run s!"{r.domain}: {c.name} {c.verdict.word}{Digest.inBrackets c.messages.head?}"

def verdictNotes (list : Option PolicyList) (r : DomainReport) : List Note :=
  Digest.domain r ++ (list.map fun l => membershipNote l r).toList

def jsonLines (reports : List DomainReport) : String × List Note :=
  let (writer, notes) := Batch.JsonLines.handleAll { sink := .unbounded } reports
  (String.ofList writer.sink.content, notes)

def domainsFailed : Nat := 2

def loadList (m : Machine) (path : String) : Except Failure PolicyList :=
  attempt s!"Failed to load policy list {path}" StoreError.chain
    ((m.stored path).bind PolicyList.ofJson)

def Ready.window (ready : Ready) (s : Settings) (domains : List String) :
    Batch.Window String DomainReport World :=
  { limit := max 1 s.poolSize, pending := domains, world := ready.world }

structure Checked where
  output : String
  notes : List Note
  failed : Nat
  deriving Repr

namespace Checked

def ofReports (list : Option PolicyList) (reports : List DomainReport) (world : World) : Checked :=
  let (output, writeNotes) := jsonLines reports
  { output
    notes := world.notes ++ reports.flatMap (verdictNotes list) ++ writeNotes ++
      Digest.statistics world.tally
    failed := reports.countP fun r => !r.verdict.isSuccess }

def finished (c : Checked) : Finished :=
  { output := c.output
    notes := c.notes
    exitCode := if c.failed = 0 then 0 else domainsFailed }

end Checked

def checked (m : Machine) (s : Settings) (domains : List String) (policyList : Option String) :
    Except Failure Checked := do
  checkSettings s
  let list ← policyList.mapM (loadList m)
  let ready ← begin m s
  let window := (ready.window s domains).run (DomainCheck.verdict ready.services)
  .ok (.ofReports list window.outcomes window.world)

def check (m : Machine) (s : Settings) (domains : List String) (policyList : Option String) :
    Except Failure Finished :=
  (checked m s domains policyList).map Checked.finished

def fileName (path : String) : String :=
  let parts := (Text.splitAll '/' path.toList).filter fun part => !part.isEmpty && part != ['.']
  match parts.getLast? with
  | some part => if part = ['.', '.'] then "" else String.ofList part
  | none => ""

def scanFormat (hasHeaders : Bool) : Csv.Format := { hasHeaders, flexible := true, trimmed := true }

/-- The rows of a file. A directory can be opened but not read. -/
def scanRows (m : Machine) (q : ScanRequest) :
    Except Failure (List (Except Csv.Error (List String))) :=
  let format := scanFormat q.hasHeaders
  match m.files q.file with
  | .ok bytes => .ok (format.records bytes none)
  | .error .isDirectory => .ok (format.records [] (some FileError.isDirectory.message))
  | .error e => .error (.ofChain s!"Failed to open input file {q.file}" [e.message])

def scanOutput (q : ScanRequest) (time : Instant) (reports : List DomainReport) :
    String × List Note :=
  match q.output with
  | .totals =>
      let start : Batch.Totals := { time, source := q.source.getD (fileName q.file) }
      let (t, notes) := start.handleAll reports
      (t.text, notes)
  | .jsonl => jsonLines reports

/-- The part of the text that is out before a scan ends: each line of JSON goes out by itself,
totals do so at the end. -/
def printedEarly (q : ScanRequest) (output : String) : String :=
  match q.output with
  | .totals => ""
  | .jsonl => output

def elapsedSince (start now : Instant) : Duration := ⟨(now.since start).toNat⟩

def scan (m : Machine) (s : Settings) (q : ScanRequest) : Except Failure Finished := do
  checkSettings s
  let pool ← attempt "Invalid pool size" (fun (e : SettingsError) => [e.message])
    (Batch.Pool.ofSize s.poolSize)
  let rows ← scanRows m q
  let ready ← begin m s
  let world := ready.world.note
    [.log .info .run s!"Scanning {q.file} with {pool.size} workers"]
  let (began, world) := world.now ready.services.clock
  let start : Batch.Pipeline Csv.Error DomainReport World :=
    .start q.column pool.size false rows world
  let p := start.run (DomainCheck.verdict ready.services)
  let (output, notes) := scanOutput q began p.reports
  let notes := p.world.notes ++ p.notes.reverse ++ notes
  match p.scanOutcome with
  | .error e =>
      .error { chain := "Batch scan failed" :: e.chain, notes, output := printedEarly q output }
  | .ok summary =>
      let elapsed := elapsedSince began (p.world.now ready.services.clock).1
      .ok
        { output
          notes := notes ++ [summary.note elapsed, Digest.scan summary elapsed] ++
            Digest.statistics p.world.tally
          exitCode := 0 }

structure Watch where
  validator : Revalidation.Validator World
  ready : Ready

def duty (s : Services) : Revalidation.Duty World :=
  { check := fun domain hosts w =>
      let (r, w) := DomainCheck.run s domain hosts w
      ⟨r.report, ⟨0⟩, w⟩
    announce := fun validator domain r => [Revalidation.Reporter.warning validator domain r] }

def watch (m : Machine) (s : Settings) (policies : String) (intervalSeconds : Nat) (name : String) :
    Except Failure Watch := do
  checkSettings s
  let store ← attempt s!"Failed to load policies from {policies}" StoreError.chain
    ((m.stored policies).bind Revalidation.Store.ofJson)
  let loaded := Note.log .info .run s!"Loaded {store.size} domains from {policies}"
  let ready ← (begin m s).mapError fun f => { f with notes := loaded :: f.notes }
  .ok ⟨.of name (.ofSeconds intervalSeconds) store.source,
    { ready with world := ready.world.note [loaded] }⟩

def interruptNote : Note := .log .info .program "Received Ctrl-C, shutting down"

def stoppingNote (v : Revalidation.Validator World) : Note :=
  .log .info .run s!"Stopping validator {v.name}"

def validate (m : Machine) (s : Settings) (policies : String) (intervalSeconds : Nat)
    (name : String) : Except Failure Finished := do
  let w ← watch m s policies intervalSeconds name
  let diary := w.validator.run (duty w.ready.services) .coarse m.interrupt w.ready.world
  .ok
    { output := ""
      notes := diary.world.notes ++ diary.notes.reverse ++
        [interruptNote, stoppingNote w.validator] ++ Digest.statistics diary.world.tally
      exitCode := 0 }

def versionLine : String := "starttls_check 0.1.0"

def execute (m : Machine) (i : Invocation) : Except Failure Finished :=
  match i.command with
  | .check domains policyList => check m i.settings domains policyList
  | .scan q => scan m i.settings q
  | .validate policies intervalSeconds name => validate m i.settings policies intervalSeconds name

def poolVariable : String := "CONNECTION_POOL_SIZE"

def logVariable : String := "RUST_LOG"

structure Outcome where
  exitCode : Nat
  format : LogFormat := .plain
  coloured : Bool := false
  warnings : List String := []
  entries : List Log.Entry := []
  output : String := ""
  complaint : Option String := none
  refusal : Option Refusal := none
  deriving Repr

namespace Outcome

def ofRefusal (r : Refusal) : Outcome :=
  match r with
  | .version => { exitCode := 0, output := versionLine ++ "\n" }
  | .help => { exitCode := 0, refusal := some .help }
  | r => { exitCode := 2, refusal := some r }

def shown (f : Log.Filter) (notes : List Note) : List Log.Entry :=
  (Note.entries notes).filter f.shows

def ofResult (m : Machine) (s : Settings) (result : Except Failure Finished) : Outcome :=
  let (filter, warnings) := Log.Filter.ofSettings s.logLevel (m.environment logVariable)
  let format := s.logFormat
  let coloured := Log.isColoured m.environment m.isTerminal
  match result with
  | .ok f =>
      let entries := shown filter f.notes
      { exitCode := f.exitCode, format, coloured, warnings, entries, output := f.output }
  | .error f =>
      let entries := shown filter f.notes
      { exitCode := 1, format, coloured, warnings, entries, output := f.output,
        complaint := some f.text }

def log (o : Outcome) (time : Instant) : String :=
  String.join (o.entries.map (Log.Entry.line o.format o.coloured time))

end Outcome

def run (m : Machine) (args : List String) : Outcome :=
  match Invocation.read args (m.environment poolVariable) with
  | .error r => .ofRefusal r
  | .ok i => .ofResult m i.settings (execute m i)

end MailAudit.Program
