import MailAudit.Log
import MailAudit.Report.Domain
import MailAudit.Sum

namespace MailAudit.Batch

inductive SinkFault where
  | readerGone
  | other (reason : String)
  deriving DecidableEq, Repr

/-- What a sink has received, latest first, and whether it takes the next write: that may depend on
what it holds and on how often it was tried. -/
structure Sink where
  refusal : (held : List (List Char)) → (attempts : Nat) → Option SinkFault
  held : List (List Char) := []
  attempts : Nat := 0

namespace Sink

def write (s : Sink) (text : List Char) : Sink × Except SinkFault Unit :=
  match s.refusal s.held s.attempts with
  | some fault => ({ s with attempts := s.attempts + 1 }, .error fault)
  | none => ({ s with held := text :: s.held, attempts := s.attempts + 1 }, .ok ())

def writeAll (s : Sink) : List (List Char) → Sink × Except SinkFault Unit
  | [] => (s, .ok ())
  | text :: rest =>
      match s.write text with
      | (s, .ok ()) => s.writeAll rest
      | (s, .error fault) => (s, .error fault)

def content (s : Sink) : List Char := s.held.reverse.flatten

def lineCount (held : List (List Char)) : Nat :=
  sumOf (held.map fun text => text.count '\n')

def unbounded : Sink := { refusal := fun _ _ => none }

def full (limit : Nat) (fault : SinkFault) : Sink :=
  { refusal := fun held _ => if limit ≤ lineCount held then some fault else none }

end Sink

structure JsonLines where
  sink : Sink
  written : Nat := 0
  errors : Nat := 0

namespace JsonLines

def forgive : Except SinkFault Unit → Except String Unit
  | .error (.other reason) => .error reason
  | _ => .ok ()

def lineWrites (r : DomainReport) : List (List Char) := r.toJson.writes ++ [['\n']]

def handle (w : JsonLines) (r : DomainReport) : JsonLines × List Note :=
  let (sink, outcome) := w.sink.writeAll (lineWrites r)
  match forgive outcome with
  | .ok () => ({ w with sink, written := w.written + 1 }, [])
  | .error reason =>
      ({ w with sink, errors := w.errors + 1 },
        [.log .warn .handlers s!"Failed to write result for {r.domain}: {reason}"])

def handleAll (w : JsonLines) : List DomainReport → JsonLines × List Note
  | [] => (w, [])
  | r :: rest =>
      let (w, notes) := w.handle r
      let (w, more) := w.handleAll rest
      (w, notes ++ more)

end JsonLines

end MailAudit.Batch
