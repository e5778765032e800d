import MailAudit.Batch.Pipeline

namespace MailAudit.Batch.Pipeline

variable {ε ρ σ : Type}

inductive Step (check : String → σ → ρ × σ) (p : Pipeline ε ρ σ) : Move → Pipeline ε ρ σ → Prop
  | exhaust (hp : p.producer = .reading) (hi : p.input = []) :
      Step check p .read { p with producer := .finished }
  | halt {record input notes} (hp : p.producer = .reading) (hi : p.input = record :: input)
      (hs : p.stopped = true) :
      Step check p .read { p with input, producer := .finished, notes }
  | fault {e input} (hp : p.producer = .reading) (hi : p.input = .error e :: input)
      (hs : p.stopped = false) :
      Step check p .read
        { p with input, producer := .failed (p.rowsRead + 1) e, stopped := true }
  | take {fields input domain} (hp : p.producer = .reading) (hi : p.input = .ok fields :: input)
      (hs : p.stopped = false) (hd : domainIn? p.column fields = some domain) :
      Step check p .read
        { p with input, producer := .offering domain, rowsRead := p.rowsRead + 1 }
  | skip {fields input notes} (hp : p.producer = .reading) (hi : p.input = .ok fields :: input)
      (hs : p.stopped = false) (hd : domainIn? p.column fields = none) :
      Step check p .read
        { p with input, rowsRead := p.rowsRead + 1, rowsSkipped := p.rowsSkipped + 1, notes }
  | offer {domain} (hp : p.producer = .offering domain) (hq : p.queue.length < p.capacity)
      (hw : p.allFinished = false) :
      Step check p .offer { p with producer := .reading, queue := p.queue ++ [domain] }
  | giveUp {domain} (hp : p.producer = .offering domain) (hw : p.allFinished = true) :
      Step check p .giveUp { p with producer := .finished }
  | takeTurn {i w} (hw : p.workers[i]? = some w) (ha : w.activity = .idle)
      (ht : p.turnTaken = false) :
      Step check p (.takeTurn i)
        { p with workers := p.workers.set i { w with activity := .receiving } }
  | receive {i w domain queue} (hw : p.workers[i]? = some w) (ha : w.activity = .receiving)
      (hq : p.queue = domain :: queue) (hs : p.stopped = false) :
      Step check p (.receive i)
        { p with queue, workers := p.workers.set i { w with activity := .checking domain } }
  | leave {i w notes} (hw : p.workers[i]? = some w) (ha : w.activity = .receiving)
      (hs : p.stopped = true ∨ p.queue = [] ∧ p.producer.isDone = true) :
      Step check p (.leave i)
        { p with workers := p.workers.set i { w with activity := .finished }, notes }
  | complete {i w domain} (hw : p.workers[i]? = some w) (ha : w.activity = .checking domain)
      (hs : p.stopped = false) :
      Step check p (.complete i)
        { p with
          world := (check domain p.world).2
          workers := p.workers.set i { w with activity := .offering (check domain p.world).1 } }
  | abandon {i w domain notes} (hw : p.workers[i]? = some w) (ha : w.activity = .checking domain)
      (hs : p.stopped = true) :
      Step check p (.abandon i)
        { p with workers := p.workers.set i { w with activity := .finished }, notes }
  | send {i w report} (hw : p.workers[i]? = some w) (ha : w.activity = .offering report)
      (hr : p.results.length < p.capacity) :
      Step check p (.send i)
        { p with
          results := p.results ++ [report]
          workers := p.workers.set i { activity := .idle, sent := w.sent + 1 } }
  | collect {report results} (hc : p.collector = .waiting) (hr : p.results = report :: results) :
      Step check p .collect { p with collector := .handling report, results }
  | handle {report} (hc : p.collector = .handling report) :
      Step check p .handle { p with collector := .waiting, handled := report :: p.handled }
  | close (hc : p.collector = .waiting) (hr : p.results = []) (hw : p.allFinished = true) :
      Step check p .close { p with collector := .finished }
  | cancel (hc : p.cancelled = false) :
      Step check p .cancel { p with cancelled := true, stopped := true }

variable {check : String → σ → ρ × σ} {p q : Pipeline ε ρ σ} {m : Move}

theorem step_of_read? (h : p.read? = some q) : Step check p .read q := by
  simp only [read?] at h
  split at h
  · rename_i hp hi
    cases h
    exact .exhaust hp hi
  · rename_i record input hp hi
    cases h
    simp only [readRecord]
    split
    · rename_i hs
      exact .halt hp hi hs
    · rename_i hs
      have hs : p.stopped = false := Bool.eq_false_iff.mpr hs
      cases record with
      | error e => exact .fault hp hi hs
      | ok fields =>
          cases hd : domainIn? p.column fields with
          | none => simpa only [hd] using Step.skip hp hi hs hd
          | some domain => simpa only [hd] using Step.take hp hi hs hd
  · cases h

theorem step_of_offer? (h : p.offer? = some q) : Step check p .offer q := by
  simp only [offer?] at h
  split at h
  · rename_i domain hp
    split at h
    · rename_i hroom
      cases h
      simp only [Bool.and_eq_true, decide_eq_true_eq, Bool.not_eq_true'] at hroom
      exact .offer hp hroom.1 hroom.2
    · cases h
  · cases h

theorem step_of_giveUp? (h : p.giveUp? = some q) : Step check p .giveUp q := by
  simp only [giveUp?] at h
  split at h
  · rename_i domain hp
    split at h
    · rename_i hw
      cases h
      exact .giveUp hp hw
    · cases h
  · cases h

theorem step_of_takeTurn? {i : Nat} (h : p.takeTurn? i = some q) :
    Step check p (.takeTurn i) q := by
  obtain ⟨w, hw, h⟩ := act?_eq_some h
  split at h
  · rename_i ha
    split at h
    · cases h
    · rename_i ht
      cases h
      exact .takeTurn hw ha (Bool.eq_false_iff.mpr ht)
  · cases h

theorem step_of_receive? {i : Nat} (h : p.receive? i = some q) : Step check p (.receive i) q := by
  obtain ⟨w, hw, h⟩ := act?_eq_some h
  split at h
  · rename_i domain queue ha hq
    split at h
    · cases h
    · rename_i hs
      cases h
      exact .receive hw ha hq (Bool.eq_false_iff.mpr hs)
  · cases h

theorem step_of_leave? {i : Nat} (h : p.leave? i = some q) : Step check p (.leave i) q := by
  obtain ⟨w, hw, h⟩ := act?_eq_some h
  split at h
  · rename_i ha
    split at h
    · rename_i hs
      cases h
      simp only [Bool.or_eq_true, Bool.and_eq_true, List.isEmpty_iff] at hs
      exact .leave hw ha hs
    · cases h
  · cases h

theorem step_of_complete? {i : Nat} (h : p.complete? check i = some q) :
    Step check p (.complete i) q := by
  obtain ⟨w, hw, h⟩ := act?_eq_some h
  split at h
  · rename_i domain ha
    split at h
    · cases h
    · rename_i hs
      cases h
      exact .complete hw ha (Bool.eq_false_iff.mpr hs)
  · cases h

theorem step_of_abandon? {i : Nat} (h : p.abandon? i = some q) : Step check p (.abandon i) q := by
  obtain ⟨w, hw, h⟩ := act?_eq_some h
  split at h
  · rename_i domain ha
    split at h
    · rename_i hs
      cases h
      exact .abandon hw ha hs
    · cases h
  · cases h

theorem step_of_send? {i : Nat} (h : p.send? i = some q) : Step check p (.send i) q := by
  obtain ⟨w, hw, h⟩ := act?_eq_some h
  split at h
  · rename_i report ha
    split at h
    · rename_i hr
      cases h
      exact .send hw ha hr
    · cases h
  · cases h

theorem step_of_collect? (h : p.collect? = some q) : Step check p .collect q := by
  simp only [collect?] at h
  split at h
  · rename_i hc hr
    cases h
    exact .collect hc hr
  · cases h

theorem step_of_handle? (h : p.handle? = some q) : Step check p .handle q := by
  simp only [handle?] at h
  split at h
  · rename_i hc
    cases h
    exact .handle hc
  · cases h

theorem step_of_close? (h : p.close? = some q) : Step check p .close q := by
  simp only [close?] at h
  split at h
  · rename_i hc hr
    split at h
    · rename_i hw
      cases h
      exact .close hc hr hw
    · cases h
  · cases h

theorem step_of_cancel? (h : p.cancel? = some q) : Step check p .cancel q := by
  simp only [cancel?] at h
  split at h
  · cases h
  · rename_i hc
    cases h
    exact .cancel (Bool.eq_false_iff.mpr hc)

theorem step_of_step? (h : p.step? check m = some q) : Step check p m q := by
  cases m with
  | read => exact step_of_read? h
  | offer => exact step_of_offer? h
  | giveUp => exact step_of_giveUp? h
  | takeTurn i => exact step_of_takeTurn? h
  | receive i => exact step_of_receive? h
  | leave i => exact step_of_leave? h
  | complete i => exact step_of_complete? h
  | abandon i => exact step_of_abandon? h
  | send i => exact step_of_send? h
  | collect => exact step_of_collect? h
  | handle => exact step_of_handle? h
  | close => exact step_of_close? h
  | cancel => exact step_of_cancel? h

def completed (check : String → σ → ρ × σ) (p : Pipeline ε ρ σ) : Move → List (String × ρ)
  | .complete i =>
      match p.workers[i]? with
      | some ⟨.checking domain, _⟩ => [(domain, (check domain p.world).1)]
      | _ => []
  | _ => []

inductive Run (check : String → σ → ρ × σ) (p : Pipeline ε ρ σ) :
    List Move → List (String × ρ) → Pipeline ε ρ σ → Prop
  | refl : Run check p [] [] p
  | tail {ms done q m r} : Run check p ms done q → q.step? check m = some r →
      Run check p (ms ++ [m]) (done ++ q.completed check m) r

variable {ms : List Move} {done : List (String × ρ)}

theorem Run.length_add_work_le (h : Run check p ms done q) : ms.length + q.work ≤ p.work := by
  induction h with
  | refl => simp
  | @tail ms done q m r hrun hstep ih =>
      have hlt : r.work < q.work := work_lt_of_step? hstep
      simp only [List.length_append, List.length_singleton]
      omega

theorem Run.head {r : Pipeline ε ρ σ} (hstep : p.step? check m = some q)
    (h : Run check q ms done r) : Run check p (m :: ms) (p.completed check m ++ done) r := by
  induction h with
  | refl => simpa using Run.tail Run.refl hstep
  | tail _ hlast ih => simpa using Run.tail ih hlast

theorem Run.trans {ms' : List Move} {done' : List (String × ρ)} {r : Pipeline ε ρ σ}
    (h : Run check p ms done q) (h' : Run check q ms' done' r) :
    Run check p (ms ++ ms') (done ++ done') r := by
  induction h' with
  | refl => rwa [List.append_nil, List.append_nil]
  | tail _ hstep ih =>
    rw [← List.append_assoc, ← List.append_assoc]
    exact ih.tail hstep

def follow? (check : String → σ → ρ × σ) (p : Pipeline ε ρ σ) :
    List Move → Option (List (String × ρ) × Pipeline ε ρ σ)
  | [] => some ([], p)
  | m :: ms =>
      match p.step? check m with
      | none => none
      | some q => (q.follow? check ms).map fun (done, r) => (p.completed check m ++ done, r)

theorem run_of_follow? (h : p.follow? check ms = some (done, q)) : Run check p ms done q := by
  induction ms generalizing p done with
  | nil =>
      simp only [follow?, Option.some.injEq, Prod.mk.injEq] at h
      obtain ⟨rfl, rfl⟩ := h
      exact .refl
  | cons m ms ih =>
      simp only [follow?] at h
      split at h
      · cases h
      · rename_i r hstep
        obtain ⟨⟨rest, q'⟩, hrest, heq⟩ := Option.map_eq_some_iff.mp h
        simp only [Prod.mk.injEq] at heq
        obtain ⟨rfl, rfl⟩ := heq
        exact Run.head hstep (ih hrest)

/-- The caller has its summary: nothing is left to collect, every worker has been joined, and the
producer has ended. -/
def Final (p : Pipeline ε ρ σ) : Prop :=
  p.collector = .finished ∧ p.allFinished = true ∧ p.producer.isDone = true

end MailAudit.Batch.Pipeline
