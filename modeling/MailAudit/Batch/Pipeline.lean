import MailAudit.Log
import MailAudit.Sum
import MailAudit.Text.Blank

/-! A batch run, step by step: a producer reads records and queues their domains, workers take turns
at the queue and check them, and a collector hands the reports on one at a time. Both queues are
bounded. Any enabled step may be the next one; each leaves less to do. -/

namespace MailAudit.Batch

def domainIn? (column : Nat) (record : List String) : Option String :=
  match record[column]? with
  | none => none
  | some field =>
      let domain := Text.trim field
      if domain.isEmpty then none else some domain

inductive Producer (ε : Type) where
  | reading
  | offering (domain : String)
  | finished
  | failed (row : Nat) (e : ε)
  deriving Repr

inductive Activity (ρ : Type) where
  | idle
  | receiving
  | checking (domain : String)
  | offering (report : ρ)
  | finished
  deriving Repr

structure Worker (ρ : Type) where
  activity : Activity ρ := .idle
  sent : Nat := 0
  deriving Repr

inductive Collector (ρ : Type) where
  | waiting
  | handling (report : ρ)
  | finished
  deriving Repr

/-- The state of a run. The token of the run is set by the caller's, and by a fault of the input;
what has been handled stands with the latest first, and so do the notes. -/
structure Pipeline (ε ρ σ : Type) where
  column : Nat
  input : List (Except ε (List String))
  producer : Producer ε := .reading
  rowsRead : Nat := 0
  rowsSkipped : Nat := 0
  queue : List String := []
  workers : List (Worker ρ)
  results : List ρ := []
  collector : Collector ρ := .waiting
  handled : List ρ := []
  stopped : Bool := false
  cancelled : Bool := false
  world : σ
  notes : List Note := []

inductive Move where
  | read
  | offer
  | giveUp
  | takeTurn (worker : Nat)
  | receive (worker : Nat)
  | leave (worker : Nat)
  | complete (worker : Nat)
  | abandon (worker : Nat)
  | send (worker : Nat)
  | collect
  | handle
  | close
  | cancel
  deriving DecidableEq, Repr

namespace Producer

variable {ε : Type}

def isDone : Producer ε → Bool
  | finished => true
  | failed _ _ => true
  | _ => false

end Producer

namespace Activity

variable {ρ : Type}

def isFinished : Activity ρ → Bool
  | finished => true
  | _ => false

def isReceiving : Activity ρ → Bool
  | receiving => true
  | _ => false

end Activity

def depthPerWorker : Nat := 2

namespace Pipeline

variable {ε ρ σ : Type}

def start (column poolSize : Nat) (cancelled : Bool) (input : List (Except ε (List String)))
    (world : σ) : Pipeline ε ρ σ :=
  { column, input, workers := List.replicate poolSize {}, stopped := cancelled, cancelled, world }

def capacity (p : Pipeline ε ρ σ) : Nat := depthPerWorker * p.workers.length

def allFinished (p : Pipeline ε ρ σ) : Bool := p.workers.all fun w => w.activity.isFinished

def turnTaken (p : Pipeline ε ρ σ) : Bool := p.workers.any fun w => w.activity.isReceiving

def setActivity (p : Pipeline ε ρ σ) (i : Nat) (w : Worker ρ) (activity : Activity ρ) :
    Pipeline ε ρ σ :=
  { p with workers := p.workers.set i { w with activity } }

def finishWorker (p : Pipeline ε ρ σ) (i : Nat) (w : Worker ρ) : Pipeline ε ρ σ :=
  { p.setActivity i w .finished with
    notes := .log .debug .batch s!"Scan worker {i} finished after {w.sent} domains" :: p.notes }

def readRecord (p : Pipeline ε ρ σ) (record : Except ε (List String)) : Pipeline ε ρ σ :=
  if p.stopped then
    { p with
      producer := .finished
      notes := .log .debug .batch "Input reader stopping: scan cancelled" :: p.notes }
  else
    let row := p.rowsRead + 1
    match record with
    | .error e => { p with producer := .failed row e, stopped := true }
    | .ok fields =>
        match domainIn? p.column fields with
        | some domain => { p with producer := .offering domain, rowsRead := row }
        | none =>
            { p with
              rowsRead := row
              rowsSkipped := p.rowsSkipped + 1
              notes := .log .warn .batch
                s!"Skipping row {row}: no domain in column {p.column}" :: p.notes }

def read? (p : Pipeline ε ρ σ) : Option (Pipeline ε ρ σ) :=
  match p.producer, p.input with
  | .reading, [] => some { p with producer := .finished }
  | .reading, record :: input => some ({ p with input }.readRecord record)
  | _, _ => none

def offer? (p : Pipeline ε ρ σ) : Option (Pipeline ε ρ σ) :=
  match p.producer with
  | .offering domain =>
      if p.queue.length < p.capacity && !p.allFinished then
        some { p with producer := .reading, queue := p.queue ++ [domain] }
      else none
  | _ => none

def giveUp? (p : Pipeline ε ρ σ) : Option (Pipeline ε ρ σ) :=
  match p.producer with
  | .offering _ => if p.allFinished then some { p with producer := .finished } else none
  | _ => none

def act? (p : Pipeline ε ρ σ) (i : Nat)
    (next? : Worker ρ → Activity ρ → Option (Pipeline ε ρ σ)) : Option (Pipeline ε ρ σ) :=
  match p.workers[i]? with
  | none => none
  | some w => next? w w.activity

def takeTurn? (p : Pipeline ε ρ σ) (i : Nat) : Option (Pipeline ε ρ σ) :=
  p.act? i fun w activity =>
    match activity with
    | .idle => if p.turnTaken then none else some (p.setActivity i w .receiving)
    | _ => none

def receive? (p : Pipeline ε ρ σ) (i : Nat) : Option (Pipeline ε ρ σ) :=
  p.act? i fun w activity =>
    match activity, p.queue with
    | .receiving, domain :: queue =>
        if p.stopped then none else some ({ p with queue }.setActivity i w (.checking domain))
    | _, _ => none

def leave? (p : Pipeline ε ρ σ) (i : Nat) : Option (Pipeline ε ρ σ) :=
  p.act? i fun w activity =>
    match activity with
    | .receiving =>
        if p.stopped || (p.queue.isEmpty && p.producer.isDone) then some (p.finishWorker i w)
        else none
    | _ => none

def complete? (check : String → σ → ρ × σ) (p : Pipeline ε ρ σ) (i : Nat) :
    Option (Pipeline ε ρ σ) :=
  p.act? i fun w activity =>
    match activity with
    | .checking domain =>
        if p.stopped then none
        else
          let (report, world) := check domain p.world
          some ({ p with world }.setActivity i w (.offering report))
    | _ => none

def abandon? (p : Pipeline ε ρ σ) (i : Nat) : Option (Pipeline ε ρ σ) :=
  p.act? i fun w activity =>
    match activity with
    | .checking _ => if p.stopped then some (p.finishWorker i w) else none
    | _ => none

def send? (p : Pipeline ε ρ σ) (i : Nat) : Option (Pipeline ε ρ σ) :=
  p.act? i fun w activity =>
    match activity with
    | .offering report =>
        if p.results.length < p.capacity then
          some
            ({ p with results := p.results ++ [report] }.setActivity i { w with sent := w.sent + 1 }
            .idle)
        else none
    | _ => none

def collect? (p : Pipeline ε ρ σ) : Option (Pipeline ε ρ σ) :=
  match p.collector, p.results with
  | .waiting, report :: results => some { p with collector := .handling report, results }
  | _, _ => none

def handle? (p : Pipeline ε ρ σ) : Option (Pipeline ε ρ σ) :=
  match p.collector with
  | .handling report => some { p with collector := .waiting, handled := report :: p.handled }
  | _ => none

def close? (p : Pipeline ε ρ σ) : Option (Pipeline ε ρ σ) :=
  match p.collector, p.results with
  | .waiting, [] => if p.allFinished then some { p with collector := .finished } else none
  | _, _ => none

def cancel? (p : Pipeline ε ρ σ) : Option (Pipeline ε ρ σ) :=
  if p.cancelled then none else some { p with cancelled := true, stopped := true }

def step? (check : String → σ → ρ × σ) (p : Pipeline ε ρ σ) : Move → Option (Pipeline ε ρ σ)
  | .read => p.read?
  | .offer => p.offer?
  | .giveUp => p.giveUp?
  | .takeTurn i => p.takeTurn? i
  | .receive i => p.receive? i
  | .leave i => p.leave? i
  | .complete i => p.complete? check i
  | .abandon i => p.abandon? i
  | .send i => p.send? i
  | .collect => p.collect?
  | .handle => p.handle?
  | .close => p.close?
  | .cancel => p.cancel?

def Producer.work : Producer ε → Nat
  | .reading => 1
  | .offering _ => 8
  | _ => 0

def Activity.work : Activity ρ → Nat
  | .idle => 2
  | .receiving => 1
  | .checking _ => 6
  | .offering _ => 5
  | .finished => 0

def Collector.work : Collector ρ → Nat
  | .waiting => 1
  | .handling _ => 2
  | .finished => 0

def cancelWork : Bool → Nat
  | true => 0
  | false => 1

def workersWork (workers : List (Worker ρ)) : Nat :=
  sumOf (workers.map fun w => Activity.work w.activity)

/-- Every place that a row can be in weighs more than the next one. -/
def work (p : Pipeline ε ρ σ) : Nat :=
  8 * p.input.length + Producer.work p.producer + 6 * p.queue.length + workersWork p.workers +
    2 * p.results.length + Collector.work p.collector + cancelWork p.cancelled

theorem workersWork_set {workers : List (Worker ρ)} {i : Nat} {w : Worker ρ}
    (h : workers[i]? = some w) (v : Worker ρ) :
    workersWork (workers.set i v) + Activity.work w.activity =
      workersWork workers + Activity.work v.activity :=
  sumOf_set (fun w : Worker ρ => Activity.work w.activity) h v

theorem act?_eq_some {p q : Pipeline ε ρ σ} {i : Nat}
    {next? : Worker ρ → Activity ρ → Option (Pipeline ε ρ σ)} (h : p.act? i next? = some q) :
    ∃ w, p.workers[i]? = some w ∧ next? w w.activity = some q := by
  simp only [act?] at h
  split at h
  · simp at h
  · rename_i w hw
    exact ⟨w, hw, h⟩

theorem work_read?_lt {p q : Pipeline ε ρ σ} (h : p.read? = some q) : q.work < p.work := by
  simp only [read?] at h
  split at h
  · rename_i hp hi
    cases h
    simp only [work, hp, Producer.work]
    omega
  · rename_i record input hp hi
    cases h
    simp only [readRecord]
    split
    · simp only [work, hp, hi, Producer.work, List.length_cons]
      omega
    · split
      · simp only [work, hp, hi, Producer.work, List.length_cons]
        omega
      · split <;> simp only [work, hp, hi, Producer.work, List.length_cons] <;> omega
  · simp at h

theorem work_offer?_lt {p q : Pipeline ε ρ σ} (h : p.offer? = some q) : q.work < p.work := by
  simp only [offer?] at h
  split at h
  · rename_i hp
    split at h
    · cases h
      simp only [work, hp, Producer.work, List.length_append, List.length_singleton]
      omega
    · simp at h
  · simp at h

theorem work_giveUp?_lt {p q : Pipeline ε ρ σ} (h : p.giveUp? = some q) : q.work < p.work := by
  simp only [giveUp?] at h
  split at h
  · rename_i hp
    split at h
    · cases h
      simp only [work, hp, Producer.work]
      omega
    · simp at h
  · simp at h

theorem work_takeTurn?_lt {p q : Pipeline ε ρ σ} {i : Nat} (h : p.takeTurn? i = some q) :
    q.work < p.work := by
  obtain ⟨w, hw, h⟩ := act?_eq_some h
  split at h
  · rename_i ha
    split at h
    · simp at h
    · cases h
      have := workersWork_set hw { w with activity := .receiving }
      simp only [work, setActivity, ha, Activity.work] at this ⊢
      omega
  · simp at h

theorem work_receive?_lt {p q : Pipeline ε ρ σ} {i : Nat} (h : p.receive? i = some q) :
    q.work < p.work := by
  obtain ⟨w, hw, h⟩ := act?_eq_some h
  split at h
  · rename_i domain queue ha hq
    split at h
    · simp at h
    · cases h
      have := workersWork_set hw { w with activity := .checking domain }
      simp only [work, setActivity, ha, hq, Activity.work, List.length_cons] at this ⊢
      omega
  · simp at h

theorem work_finishWorker {p : Pipeline ε ρ σ} {i : Nat} {w : Worker ρ}
    (h : p.workers[i]? = some w) :
    (p.finishWorker i w).work + Activity.work w.activity = p.work := by
  have h := workersWork_set h { w with activity := .finished }
  have hz : Activity.work (Activity.finished (ρ := ρ)) = 0 := rfl
  simp only [work, finishWorker, setActivity, hz] at h ⊢
  omega

theorem work_leave?_lt {p q : Pipeline ε ρ σ} {i : Nat} (h : p.leave? i = some q) :
    q.work < p.work := by
  obtain ⟨w, hw, h⟩ := act?_eq_some h
  split at h
  · rename_i ha
    split at h
    · cases h
      have := work_finishWorker hw
      simp only [ha, Activity.work] at this
      omega
    · simp at h
  · simp at h

theorem work_complete?_lt {check : String → σ → ρ × σ} {p q : Pipeline ε ρ σ} {i : Nat}
    (h : p.complete? check i = some q) : q.work < p.work := by
  obtain ⟨w, hw, h⟩ := act?_eq_some h
  split at h
  · rename_i domain ha
    split at h
    · simp at h
    · cases h
      have := workersWork_set hw { w with activity := .offering (check domain p.world).1 }
      simp only [work, setActivity, ha, Activity.work] at this ⊢
      omega
  · simp at h

theorem work_abandon?_lt {p q : Pipeline ε ρ σ} {i : Nat} (h : p.abandon? i = some q) :
    q.work < p.work := by
  obtain ⟨w, hw, h⟩ := act?_eq_some h
  split at h
  · rename_i ha
    split at h
    · cases h
      have := work_finishWorker hw
      simp only [ha, Activity.work] at this
      omega
    · simp at h
  · simp at h

theorem work_send?_lt {p q : Pipeline ε ρ σ} {i : Nat} (h : p.send? i = some q) :
    q.work < p.work := by
  obtain ⟨w, hw, h⟩ := act?_eq_some h
  split at h
  · rename_i report ha
    split at h
    · cases h
      have := workersWork_set hw { w with activity := .idle, sent := w.sent + 1 }
      simp only [work, setActivity, ha, Activity.work, List.length_append, List.length_singleton]
        at this ⊢
      omega
    · simp at h
  · simp at h

theorem work_collect?_lt {p q : Pipeline ε ρ σ} (h : p.collect? = some q) : q.work < p.work := by
  simp only [collect?] at h
  split at h
  · rename_i hc hr
    cases h
    simp only [work, hc, hr, Collector.work, List.length_cons]
    omega
  · simp at h

theorem work_handle?_lt {p q : Pipeline ε ρ σ} (h : p.handle? = some q) : q.work < p.work := by
  simp only [handle?] at h
  split at h
  · rename_i hc
    cases h
    simp only [work, hc, Collector.work]
    omega
  · simp at h

theorem work_close?_lt {p q : Pipeline ε ρ σ} (h : p.close? = some q) : q.work < p.work := by
  simp only [close?] at h
  split at h
  · rename_i hc hr
    split at h
    · cases h
      simp only [work, hc, hr, Collector.work]
      omega
    · simp at h
  · simp at h

theorem work_cancel?_lt {p q : Pipeline ε ρ σ} (h : p.cancel? = some q) : q.work < p.work := by
  simp only [cancel?] at h
  split at h
  · simp at h
  · rename_i hc
    cases h
    simp only [work, Bool.eq_false_iff.mpr hc, cancelWork]
    omega

theorem work_lt_of_step? {check : String → σ → ρ × σ} {p q : Pipeline ε ρ σ} {m : Move}
    (h : p.step? check m = some q) : q.work < p.work := by
  cases m with
  | read => exact work_read?_lt h
  | offer => exact work_offer?_lt h
  | giveUp => exact work_giveUp?_lt h
  | takeTurn i => exact work_takeTurn?_lt h
  | receive i => exact work_receive?_lt h
  | leave i => exact work_leave?_lt h
  | complete i => exact work_complete?_lt h
  | abandon i => exact work_abandon?_lt h
  | send i => exact work_send?_lt h
  | collect => exact work_collect?_lt h
  | handle => exact work_handle?_lt h
  | close => exact work_close?_lt h
  | cancel => exact work_cancel?_lt h

def workerMoves (i : Nat) : List Move :=
  [.send i, .complete i, .abandon i, .leave i, .receive i, .takeTurn i]

/-- All moves that are not made from outside. What is furthest on comes first, so that a row runs
through to the end before the next one is read. -/
def innerMoves (p : Pipeline ε ρ σ) : List Move :=
  [.handle, .collect, .close] ++ (List.range p.workers.length).flatMap workerMoves ++
    [.giveUp, .offer, .read]

def advance? (check : String → σ → ρ × σ) (p : Pipeline ε ρ σ) : Option (Pipeline ε ρ σ) :=
  p.innerMoves.findSome? (p.step? check)

theorem work_lt_of_advance? {check : String → σ → ρ × σ} {p q : Pipeline ε ρ σ}
    (h : p.advance? check = some q) : q.work < p.work := by
  obtain ⟨_, _, h⟩ := List.exists_of_findSome?_eq_some h
  exact work_lt_of_step? h

def run (check : String → σ → ρ × σ) (p : Pipeline ε ρ σ) : Pipeline ε ρ σ :=
  match _h : p.advance? check with
  | none => p
  | some q => q.run check
termination_by p.work
decreasing_by exact work_lt_of_advance? _h

end Pipeline

end MailAudit.Batch
