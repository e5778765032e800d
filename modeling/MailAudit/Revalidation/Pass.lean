import MailAudit.Log
import MailAudit.Report.Domain
import MailAudit.Revalidation.Store
import MailAudit.Time.Duration

/-! One pass of a validator: it lists the domains that are due, looks up the hosts expected of each,
checks the domain against them, and reports those that no longer pass. A stop that comes while the
pass waits for an answer ends it there and then. -/

namespace MailAudit.Revalidation

namespace Reporter

def noDetails : String := "no details"

def detail (r : DomainReport) : String :=
  match r.message with
  | some message => message
  | none => if r.messages.isEmpty then noDetails else String.intercalate "; " r.messages

def warning (validator domain : String) (r : DomainReport) : Note :=
  .log .warn .revalidation
    s!"[{validator}] {domain} failed revalidation ({r.verdict.word}): {detail r}"

end Reporter

structure Answered (α σ : Type) where
  answer : Except StoreError α
  took : Duration
  world : σ

/-- Where a validator learns of domains; listing them may fail, and so may each look-up. What is
answered may differ from one time to the next. -/
structure Source (σ : Type) where
  domains : σ → Answered (List String) σ
  hostsOf : (domain : String) → σ → Answered (List String) σ

def Store.source {σ : Type} (s : Store) : Source σ :=
  ⟨fun world => ⟨.ok s.domains, ⟨0⟩, world⟩, fun domain world => ⟨s.hostsOf domain, ⟨0⟩, world⟩⟩

def leastInterval : Duration := .ofMilliseconds 1

structure Validator (σ : Type) where
  name : String
  interval : Duration
  source : Source σ
  least_le : leastInterval.nanoseconds ≤ interval.nanoseconds

namespace Validator

/-- An interval below the least is raised to it. -/
def of {σ : Type} (name : String) (interval : Duration) (source : Source σ) : Validator σ :=
  ⟨name, .atLeast leastInterval interval, source, Nat.le_max_left _ _⟩

end Validator

structure Checked (σ : Type) where
  report : DomainReport
  took : Duration
  world : σ

structure Duty (σ : Type) where
  check : (domain : String) → (hosts : List String) → σ → Checked σ
  announce : (validator domain : String) → DomainReport → List Note

inductive Act where
  | listed
  | consulted (domain : String)
  | checked (domain : String) (hosts : List String)
  | reported (domain : String) (report : DomainReport)
  deriving Repr

/-- What a validator has done up to a time in nanoseconds, latest first, and how many failures it
has reported. -/
structure Diary (σ : Type) where
  time : Nat := 0
  world : σ
  acts : List (Nat × Act) := []
  reported : Nat := 0
  notes : List Note := []
  stopped : Bool := false

namespace Act

def check? : Act → Option (String × List String)
  | checked domain hosts => some (domain, hosts)
  | _ => none

def report? : Act → Option (String × DomainReport)
  | reported domain report => some (domain, report)
  | _ => none

end Act

def stopsBy (stop : Option Nat) (time : Nat) : Bool := stop.any fun s => s ≤ time

namespace Diary

variable {σ : Type}

def write (d : Diary σ) (act : Act) : Diary σ := { d with acts := (d.time, act) :: d.acts }

def note (d : Diary σ) (notes : List Note) : Diary σ := { d with notes := notes.reverse ++ d.notes }

def await (d : Diary σ) (stop : Option Nat) (took : Duration) (world : σ)
    (goOn : Diary σ → Diary σ) : Diary σ :=
  let time := d.time + took.nanoseconds
  if stopsBy stop time then { d with stopped := true } else goOn { d with time, world }

def history (d : Diary σ) : List (Nat × Act) := d.acts.reverse

def checks (d : Diary σ) : List (Nat × String × List String) :=
  d.history.filterMap fun (time, act) => act.check?.map fun check => (time, check)

def reports (d : Diary σ) : List (Nat × String × DomainReport) :=
  d.history.filterMap fun (time, act) => act.report?.map fun report => (time, report)

end Diary

namespace Validator

variable {σ : Type}

def conclude (v : Validator σ) (duty : Duty σ) (domain : String) (report : DomainReport)
    (d : Diary σ) : Diary σ :=
  if report.verdict.isSuccess then d
  else
    let d := d.write (.reported domain report)
    { d.note (duty.announce v.name domain report) with reported := d.reported + 1 }

def examine (v : Validator σ) (duty : Duty σ) (stop : Option Nat) (domain : String)
    (hosts : List String) (d : Diary σ) : Diary σ :=
  let c := duty.check domain hosts d.world
  (d.write (.checked domain hosts)).await stop c.took c.world (v.conclude duty domain c.report)

def unknownHosts (v : Validator σ) (domain : String) (e : StoreError) : Note :=
  .log .warn .revalidation s!"Validator {v.name} could not load hostnames for {domain}: {e.message}"

def visit (v : Validator σ) (duty : Duty σ) (stop : Option Nat) (d : Diary σ) (domain : String) :
    Diary σ :=
  if d.stopped then d
  else
    let found := v.source.hostsOf domain d.world
    (d.write (.consulted domain)).await stop found.took found.world fun d =>
      match found.answer with
      | .ok hosts => v.examine duty stop domain hosts d
      | .error e => d.note [v.unknownHosts domain e]

def unlisted (v : Validator σ) (e : StoreError) : Note :=
  .log .warn .revalidation s!"Validator {v.name} could not list domains: {e.message}"

def pass (v : Validator σ) (duty : Duty σ) (stop : Option Nat) (d : Diary σ) : Diary σ :=
  let listed := v.source.domains d.world
  (d.write .listed).await stop listed.took listed.world fun d =>
    match listed.answer with
    | .ok domains => domains.foldl (v.visit duty stop) d
    | .error e => d.note [v.unlisted e]

end Validator

end MailAudit.Revalidation
