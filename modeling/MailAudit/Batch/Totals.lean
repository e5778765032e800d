import MailAudit.Log
import MailAudit.Report.Domain
import MailAudit.Text.Quoted

namespace MailAudit.Batch

structure Totals where
  time : Instant
  source : String
  attempted : Nat := 0
  withMxs : Nat := 0
  testing : List String := []
  enforce : List String := []
  deriving DecidableEq, Repr

namespace Totals

def columns : String := "time\tsource\tattempted\twith_mxs\tmta_sts_testing\tmta_sts_enforce"

def row (t : Totals) : String :=
  let time := Rfc3339.withPlaces 0 t.time
  let testing := t.testing.length
  let enforce := t.enforce.length
  s!"{time}\t{t.source}\t{t.attempted}\t{t.withMxs}\t{testing}\t{enforce}"

def text (t : Totals) : String := columns ++ "\n" ++ t.row ++ "\n"

def progressEvery : Nat := 1000

def progress (t : Totals) : List Note :=
  [.log .info .handlers s!"Progress:\n{t.text}",
    .log .info .handlers s!"MTA-STS testing: {Text.quotedList t.testing}",
    .log .info .handlers s!"MTA-STS enforce: {Text.quotedList t.enforce}"]

def addService (t : Totals) (r : DomainReport) : Totals :=
  let t := { t with withMxs := t.withMxs + 1 }
  match r.policy.map PolicyReport.mode with
  | some .enforce => { t with enforce := t.enforce ++ [r.domain] }
  | some .testing => { t with testing := t.testing ++ [r.domain] }
  | _ => t

/-- Takes in one report. Progress shows the report in the number attempted only. -/
def handle (t : Totals) (r : DomainReport) : Totals × List Note :=
  let t := { t with attempted := t.attempted + 1 }
  let notes := if t.attempted % progressEvery = 0 then t.progress else []
  (if r.hasMailService then t.addService r else t, notes)

def handleAll (t : Totals) : List DomainReport → Totals × List Note
  | [] => (t, [])
  | r :: rest =>
      let (t, notes) := t.handle r
      let (t, more) := t.handleAll rest
      (t, notes ++ more)

end Totals

end MailAudit.Batch
