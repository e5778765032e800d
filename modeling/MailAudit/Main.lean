import MailAudit.CommandLine.EnvironmentFile
import MailAudit.CommandLine.Usage
import MailAudit.Log.Filter
import MailAudit.Log.Line
import MailAudit.Program.Run
import Std.Time.DateTime.Timestamp

/-! The program on a real machine. Files, variables and the clock are read here; what the program
does with them is decided in `Program`. This machine has no way to its peers: name servers, mail
servers and web servers are all out of reach. -/

namespace MailAudit.Main

open MailAudit.CommandLine

def fileError : IO.Error → Program.FileError
  | .inappropriateType (some _) .. => .notDirectory
  | .inappropriateType none .. => .isDirectory
  | .invalidArgument .. => .nameTooLong
  | .permissionDenied .. => .denied
  | _ => .notFound

def readBytes (path : String) : IO (Except Program.FileError (List UInt8)) := do
  match ← (IO.FS.readBinFile path).toBaseIO with
  | .ok content => return .ok content.toList
  | .error e => return .error (fileError e)

def directoryOf (path : String) : String :=
  match (path.splitOn "/").dropLast with
  | [] => "."
  | [""] => "/"
  | parts => String.intercalate "/" parts

/-- Whether a file could be made at a path. No file is made: scans are kept while the program
runs. -/
def wouldMake (path : String) : IO (Except Program.FileError Bool) := do
  if Program.Directory.endsAsDirectory path then return .error .isDirectory
  match ← readBytes path with
  | .ok _ => return .ok false
  | .error .isDirectory => return .ok false
  | .error .notFound =>
      match ← readBytes (directoryOf path) with
      | .error .isDirectory => return .ok true
      | _ => return .error .notFound
  | .error e => return .error e

def inputs : Command → List String
  | .check _ policyList => policyList.toList
  | .scan q => [q.file]
  | .validate policies _ _ => [policies]

def cachePaths (s : Settings) : List String :=
  s.cacheFile.toList.flatMap fun path =>
    match Scans.Address.ofPath path with
    | .ok (.file target _) => [path, target]
    | _ => [path]

def present : IO Instant := do
  let now ← Std.Time.Timestamp.now
  let nanoseconds := now.toNanosecondsSinceUnixEpoch.toInt
  return (Instant.of? (nanoseconds / 1000000000) (nanoseconds % 1000000000).toNat).getD default

def variableNames : List String :=
  [Program.poolVariable, Program.logVariable, Log.styleVariable] ++ Log.colourVariables

def environment : IO (String → Option String) := do
  let own ← variableNames.mapM fun name => do return (name, ← IO.getEnv name)
  let defined? (name : String) : Option String := (own.lookup name).join
  let content ← readBytes ".env"
  return EnvironmentFile.lookUp defined? (content.toOption.getD [])

def machineFor (args : List String) : IO Program.Machine := do
  let environment ← environment
  let start ← present
  let invocation := (Invocation.read args (environment Program.poolVariable)).toOption
  let cached := invocation.toList.flatMap fun i => cachePaths i.settings
  let files ← (cached ++ invocation.toList.flatMap fun i => inputs i.command).mapM fun path => do
    return (path, ← readBytes path)
  let made ← cached.mapM fun path => do return (path, ← wouldMake path)
  let machine : Program.Machine :=
    { files := fun path => (files.lookup path).getD (.error .notFound)
      make := fun path => (made.lookup path).getD (.error .notFound)
      environment
      isTerminal := ← (← IO.getStderr).isTty
      clock := fun _ => start
      network := .unreachable
      nameServer := .silent
      mailServer := fun _ => none
      webServer := fun _ => none
      interrupt := 1 }
  return machine

def logEntries (format : LogFormat) (coloured : Bool) (entries : List Log.Entry) : IO Unit :=
  entries.forM fun entry => do IO.eprint (entry.line format coloured (← present))

def showRefusal (r : Refusal) : IO Unit := do
  if r.isRequest then IO.print (Usage.refusal r) else IO.eprint (Usage.refusal r)

def showOutcome (o : Program.Outcome) : IO UInt32 := do
  o.warnings.forM (IO.eprintln ·)
  IO.eprint (o.log (← present))
  IO.print o.output
  (← IO.getStdout).flush
  o.refusal.forM showRefusal
  o.complaint.forM (IO.eprintln ·)
  return o.exitCode.toUInt32

partial def revalidate (report : List Note → IO Unit) (w : Program.Watch) (t : Revalidation.Ticker)
    (start : Nat) (world : World) : IO Unit := do
  let now := (← IO.monoNanosNow) - start
  if now < t.deadline then IO.sleep ((t.deadline - now) / 1000000 + 1).toUInt32
  let begun := (← IO.monoNanosNow) - start
  let time ← present
  let services := { w.ready.services with clock := fun _ => time }
  let d := w.validator.timedPass (Program.duty services) none begun { world }
  report (d.world.notes ++ d.notes.reverse)
  revalidate report w (t.next begun) start { d.world with journal := [] }

def run (args : List String) : IO UInt32 := do
  let m ← machineFor args
  match Invocation.read args (m.environment Program.poolVariable) with
  | .ok i =>
      match i.command with
      | .validate policies seconds name =>
          match Program.watch m i.settings policies seconds name with
          | .ok w =>
              let notes := w.ready.world.notes ++ [w.validator.startNote]
              let wish := m.environment Program.logVariable
              let (filter, warnings) := Log.Filter.ofSettings i.settings.logLevel wish
              warnings.forM (IO.eprintln ·)
              let coloured := Log.isColoured m.environment m.isTerminal
              let report (notes : List Note) : IO Unit :=
                logEntries i.settings.logFormat coloured (Program.Outcome.shown filter notes)
              report notes
              let ticker : Revalidation.Ticker := { period := w.validator.interval.nanoseconds }
              let world := { w.ready.world with journal := [] }
              revalidate report w ticker (← IO.monoNanosNow) world
              return 0
          | .error _ => showOutcome (Program.run m args)
      | _ => showOutcome (Program.run m args)
  | .error _ => showOutcome (Program.run m args)

end MailAudit.Main

def main (args : List String) : IO UInt32 := MailAudit.Main.run args
