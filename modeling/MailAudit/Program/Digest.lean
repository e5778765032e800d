import MailAudit.Batch.Scan
import MailAudit.Report.Domain

namespace MailAudit.Program

namespace Digest

def note (level : Log.Level) (message : String) : Note := .log level .statistics message

def counts {α : Type} (title : String) (total : Nat) (all : List α) (label : α → String)
    (count : α → Nat) : List Note :=
  if total = 0 then []
  else
    note .info s!"{title} Counts ({total} total):" ::
      (all.filter fun x => count x != 0).map fun x => note .info s!"   {label x}: {count x}"

def statistics (t : Tally) : List Note :=
  counts "Failure" t.totalFailures Failure.all Failure.label t.failures ++
    counts "Info" t.totalMilestones Milestone.all Milestone.label t.milestones

def rate (domains : Nat) (elapsed : Duration) : String :=
  let hundredths := (domains * 100000000000 + elapsed.nanoseconds / 2) / elapsed.nanoseconds
  Text.Decimal.print (hundredths / 100) ++ "." ++
    String.ofList (Text.Decimal.padded 2 (hundredths % 100))

def scan (s : Batch.Summary) (elapsed : Duration) : Note :=
  let plural := if s.domainsChecked = 1 then "" else "s"
  let perSecond := rate s.domainsChecked elapsed
  let ending := if s.cancelled then " - cancelled" else ""
  note .info
    (s!"✅ Checked {s.domainsChecked} domain{plural} ({s.rowsRead} rows, {s.rowsSkipped} skipped)" ++
    s!" in {elapsed.inTenths}s (~{perSecond} domains/sec){ending}")

def inBrackets (message : Option String) : String :=
  match message with
  | some m => s!" ({m})"
  | none => ""

def host (key : String) (r : HostReport) : List Note :=
  note .debug s!"   {key}: {r.verdict.word}" :: r.messages.map fun m => note .debug s!"      {m}"

def policy (r : PolicyReport) : Note :=
  note .debug s!"   MTA-STS {r.mode.word}: {r.verdict.word}"

def domain (r : DomainReport) : List Note :=
  let head :=
    if r.verdict.isSuccess then note .info s!"{r.domain}: {r.verdict.word}"
    else note .warn s!"{r.domain}: {r.verdict.word}{inBrackets r.message}"
  head :: (r.hosts.entries.flatMap fun (key, h) => host key h) ++ (r.policy.map policy).toList

end Digest

end MailAudit.Program
