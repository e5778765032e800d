import MailAudit.Proofs.Batch.Step
import Mathlib.Algebra.Order.Group.Multiset
import Mathlib.Algebra.BigOperators.Group.List.Basic
import Mathlib.Tactic.Abel

/-! Where the rows of a batch run are: each domain that was read is with the producer, in the queue,
under check, checked, or lost to a stop; each report is with a worker, in the queue of results, with
the collector, or handled. -/

namespace MailAudit.Batch

def usable {ε : Type} (column : Nat) (rows : List (Except ε (List String))) : List String :=
  rows.filterMap fun
    | .ok fields => domainIn? column fields
    | .error _ => none

def Producer.inHand {ε : Type} : Producer ε → Multiset String
  | .offering domain => {domain}
  | _ => 0

def Activity.underCheck {ρ : Type} : Activity ρ → Multiset String
  | .checking domain => {domain}
  | _ => 0

def Activity.ready {ρ : Type} : Activity ρ → Multiset ρ
  | .offering report => {report}
  | _ => 0

def Collector.inHand {ρ : Type} : Collector ρ → Multiset ρ
  | .handling report => {report}
  | _ => 0

def Move.drops : Move → Bool
  | .giveUp => true
  | .abandon _ => true
  | _ => false

theorem sum_map_set {α M : Type} [AddCommMonoid M] (f : α → M) {l : List α} {i : Nat} {a : α}
    (h : l[i]? = some a) (b : α) :
    ((l.set i b).map f).sum + f a = (l.map f).sum + f b := by
  induction l generalizing i with
  | nil => simp at h
  | cons c rest ih =>
      cases i with
      | zero =>
          obtain rfl : c = a := by simpa using h
          simp only [List.set_cons_zero, List.map_cons, List.sum_cons]
          abel
      | succ i =>
          have ih := ih (i := i) (by simpa using h)
          simp only [List.set_cons_succ, List.map_cons, List.sum_cons, add_assoc, ih]

def underCheck {ρ : Type} (workers : List (Worker ρ)) : Multiset String :=
  (workers.map fun w => w.activity.underCheck).sum

def ready {ρ : Type} (workers : List (Worker ρ)) : Multiset ρ :=
  (workers.map fun w => w.activity.ready).sum

section Workers

variable {ρ : Type} {workers : List (Worker ρ)} {i : Nat} {w : Worker ρ}

theorem underCheck_set (hw : workers[i]? = some w) (v : Worker ρ) :
    underCheck (workers.set i v) + w.activity.underCheck =
      underCheck workers + v.activity.underCheck :=
  sum_map_set _ hw v

theorem ready_set (hw : workers[i]? = some w) (v : Worker ρ) :
    ready (workers.set i v) + w.activity.ready = ready workers + v.activity.ready :=
  sum_map_set _ hw v

theorem exists_finished_of_set {v : Worker ρ} (hv : v.activity.isFinished = false)
    (h : ∃ u ∈ workers.set i v, u.activity.isFinished = true) :
    ∃ u ∈ workers, u.activity.isFinished = true := by
  obtain ⟨u, hu, hf⟩ := h
  rcases List.mem_or_eq_of_mem_set hu with hu | rfl
  · exact ⟨u, hu, hf⟩
  · rw [hv] at hf
    cases hf

end Workers

namespace Pipeline

variable {ε ρ σ : Type}

def awaiting (p : Pipeline ε ρ σ) : Multiset String :=
  p.producer.inHand + ↑p.queue + underCheck p.workers

def undelivered (p : Pipeline ε ρ σ) : Multiset ρ :=
  ready p.workers + ↑p.results + p.collector.inHand

structure Reading (rows : List (Except ε (List String))) (p : Pipeline ε ρ σ) : Prop where
  le : p.rowsRead ≤ rows.length
  rest : p.producer.isDone = false → p.input = rows.drop p.rowsRead
  skipped : p.rowsSkipped + (usable p.column (rows.take p.rowsRead)).length = p.rowsRead
  failed : ∀ row e, p.producer = .failed row e →
    row = p.rowsRead + 1 ∧ rows[p.rowsRead]? = some (.error e)

/-- No worker leaves a run that goes on before the queue is empty for good. -/
def Drained (p : Pipeline ε ρ σ) : Prop :=
  p.stopped = false → (∃ w ∈ p.workers, w.activity.isFinished = true) →
    p.producer.isDone = true ∧ p.queue = []

/-- Every domain that was read is awaiting its check, checked, or lost, and none is lost before the
run is stopped. -/
structure Conserved (rows : List (Except ε (List String))) (done : List (String × ρ))
    (lost : Multiset String) (p : Pipeline ε ρ σ) : Prop where
  domains : p.awaiting + ↑(done.map Prod.fst) + lost = ↑(usable p.column (rows.take p.rowsRead))
  kept : p.stopped = false → lost = 0

def Delivered (done : List (String × ρ)) (p : Pipeline ε ρ σ) : Prop :=
  (↑(done.map Prod.snd) : Multiset ρ) = p.undelivered + ↑p.handled

variable {check : String → σ → ρ × σ} {p q : Pipeline ε ρ σ} {m : Move}
  {rows : List (Except ε (List String))} {done : List (String × ρ)} {lost : Multiset String}

theorem next_of_drop {α : Type} {l : List α} {n : Nat} {a : α} {rest : List α}
    (h : l.drop n = a :: rest) :
    n < l.length ∧ l.take (n + 1) = l.take n ++ [a] ∧ l.drop (n + 1) = rest := by
  have hlt : n < l.length := by
    by_contra hge
    rw [List.drop_eq_nil_of_le (by omega)] at h
    cases h
  rw [List.drop_eq_getElem_cons hlt, List.cons.injEq] at h
  exact ⟨hlt, by rw [List.take_succ_eq_append_getElem hlt, h.1], h.2⟩

theorem usable_append (column : Nat) (a b : List (Except ε (List String))) :
    usable column (a ++ b) = usable column a ++ usable column b :=
  List.filterMap_append

theorem usable_ok_some {column : Nat} {fields : List String} {domain : String}
    (h : domainIn? column fields = some domain) :
    usable column [(Except.ok fields : Except ε (List String))] = [domain] := by
  simp [usable, h]

theorem usable_ok_none {column : Nat} {fields : List String} (h : domainIn? column fields = none) :
    usable column [(Except.ok fields : Except ε (List String))] = [] := by
  simp [usable, h]

theorem reading_step (hr : Reading rows p) (h : Step check p m q) : Reading rows q := by
  cases h with
  | exhaust hp hi => exact ⟨hr.le, nofun, hr.skipped, nofun⟩
  | halt hp hi hs => exact ⟨hr.le, nofun, hr.skipped, nofun⟩
  | @fault e input hp hi hs =>
      refine ⟨hr.le, nofun, hr.skipped, ?_⟩
      rintro row e' ⟨⟩
      have hd : rows.drop p.rowsRead = .error e :: input := by rw [← hr.rest (by rw [hp]; rfl), hi]
      refine ⟨rfl, ?_⟩
      rw [← Nat.add_zero p.rowsRead, ← List.getElem?_drop, hd]
      rfl
  | @take fields input domain hp hi hs hd =>
      obtain ⟨hlt, htake, hdrop⟩ := next_of_drop ((hr.rest (by rw [hp]; rfl)).symm.trans hi)
      refine ⟨hlt, fun _ => hdrop.symm, ?_, nofun⟩
      have hskip := hr.skipped
      simp only [htake, usable_append, usable_ok_some hd, List.length_append, List.length_singleton]
      omega
  | @skip fields input notes hp hi hs hd =>
      obtain ⟨hlt, htake, hdrop⟩ := next_of_drop ((hr.rest (by rw [hp]; rfl)).symm.trans hi)
      refine ⟨hlt, fun _ => hdrop.symm, ?_, fun row e hf => by rw [hp] at hf; cases hf⟩
      have hskip := hr.skipped
      simp only [htake, usable_append, usable_ok_none hd, List.append_nil]
      omega
  | offer hp hq hw => exact ⟨hr.le, fun _ => hr.rest (by rw [hp]; rfl), hr.skipped, nofun⟩
  | giveUp hp hw => exact ⟨hr.le, nofun, hr.skipped, nofun⟩
  | _ => exact ⟨hr.le, hr.rest, hr.skipped, hr.failed⟩

theorem Drained.nobody_finished (hd : Drained p) (hgo : p.stopped = false)
    (hp : p.producer.isDone = false) : ¬ ∃ w ∈ p.workers, w.activity.isFinished = true := by
  intro hf
  have hdone := (hd hgo hf).1
  rw [hp] at hdone
  cases hdone

theorem Drained.stopped_of_allFinished (hd : Drained p) (hpos : p.workers ≠ [])
    (hf : p.allFinished = true) (hp : p.producer.isDone = false) : p.stopped = true := by
  obtain ⟨w, hw⟩ := List.exists_mem_of_ne_nil _ hpos
  cases hgo : p.stopped with
  | true => rfl
  | false => exact absurd ⟨w, hw, List.all_eq_true.mp hf w hw⟩ (hd.nobody_finished hgo hp)

theorem drained_step (hd : Drained p) (hpos : p.workers ≠ []) (h : Step check p m q) :
    Drained q := by
  cases h with
  | exhaust hp hi => exact fun hgo hf => absurd hf (hd.nobody_finished hgo (by rw [hp]; rfl))
  | halt hp hi hs => exact fun hgo => absurd (hgo.symm.trans hs) Bool.false_ne_true
  | fault hp hi hs => exact nofun
  | take hp hi hs hd' => exact fun _ hf => absurd hf (hd.nobody_finished hs (by rw [hp]; rfl))
  | skip hp hi hs hd' => exact fun _ hf => hd hs hf
  | offer hp hq hw => exact fun hgo hf => absurd hf (hd.nobody_finished hgo (by rw [hp]; rfl))
  | giveUp hp hw =>
    have hstopped := hd.stopped_of_allFinished hpos hw (by rw [hp]; rfl)
    exact fun hgo => absurd (hgo.symm.trans hstopped) Bool.false_ne_true
  | takeTurn hw ha ht => exact fun hs hf => hd hs (exists_finished_of_set rfl hf)
  | receive hw ha hq hs =>
    intro _ hf
    have hempty := (hd hs (exists_finished_of_set rfl hf)).2
    rw [hq] at hempty
    cases hempty
  | leave hw ha hs =>
    intro hgo _
    rcases hs with hs | ⟨hq, hdone⟩
    · exact absurd (hgo.symm.trans hs) Bool.false_ne_true
    · exact ⟨hdone, hq⟩
  | complete hw ha hs => exact fun _ hf => hd hs (exists_finished_of_set rfl hf)
  | abandon hw ha hs => exact fun hgo => absurd (hgo.symm.trans hs) Bool.false_ne_true
  | send hw ha hr => exact fun hs hf => hd hs (exists_finished_of_set rfl hf)
  | collect hc hr => exact hd
  | handle hc => exact hd
  | close hc hr hw => exact hd
  | cancel hc => exact nofun

theorem completed_complete {i n : Nat} {domain : String}
    (hw : p.workers[i]? = some ⟨.checking domain, n⟩) :
    p.completed check (.complete i) = [(domain, (check domain p.world).1)] := by
  simp only [completed, hw]

section Undelivered

variable {i : Nat} {w v : Worker ρ} {report : ρ}

theorem undelivered_turn (hw : p.workers[i]? = some w)
    (hsame : v.activity.ready = w.activity.ready) :
    ({ p with workers := p.workers.set i v } : Pipeline ε ρ σ).undelivered = p.undelivered := by
  have hset := ready_set hw v
  rw [hsame, add_left_inj] at hset
  rw [undelivered, undelivered, hset]

theorem undelivered_complete (hw : p.workers[i]? = some w) (hnone : w.activity.ready = 0)
    (hv : v.activity = .offering report) :
    ({ p with workers := p.workers.set i v } : Pipeline ε ρ σ).undelivered =
      p.undelivered + {report} := by
  have hset := ready_set hw v
  rw [hnone, add_zero, hv, Activity.ready] at hset
  rw [undelivered, undelivered, hset]
  abel

theorem undelivered_send (hw : p.workers[i]? = some w) (ha : w.activity = .offering report)
    (hnone : v.activity.ready = 0) :
    ({ p with results := p.results ++ [report], workers := p.workers.set i v } :
      Pipeline ε ρ σ).undelivered = p.undelivered := by
  have hset := ready_set hw v
  rw [hnone, add_zero, ha, Activity.ready] at hset
  simp only [undelivered, ← hset, ← Multiset.coe_add, Multiset.coe_singleton]
  abel

theorem undelivered_collect {results : List ρ} (hc : p.collector = .waiting)
    (hr : p.results = report :: results) :
    ({ p with collector := .handling report, results } : Pipeline ε ρ σ).undelivered =
      p.undelivered := by
  simp only [undelivered, hc, hr, Collector.inHand, ← Multiset.cons_coe,
    ← Multiset.singleton_add]
  abel

theorem undelivered_handle (hc : p.collector = .handling report) :
    ({ p with collector := .waiting } : Pipeline ε ρ σ).undelivered + {report} =
      p.undelivered := by
  simp only [undelivered, hc, Collector.inHand, add_zero]

theorem undelivered_close (hc : p.collector = .waiting) :
    ({ p with collector := .finished } : Pipeline ε ρ σ).undelivered = p.undelivered := by
  rw [undelivered, undelivered, hc]
  rfl

end Undelivered

section Delivery

variable {more : List (String × ρ)} {report : ρ}

theorem Delivered.passOn (hd : Delivered done p) (hmore : more = [])
    (hhandled : q.handled = p.handled) (h : q.undelivered = p.undelivered) :
    Delivered (done ++ more) q := by
  rw [Delivered, hmore, List.append_nil, hhandled, h]
  exact hd

theorem Delivered.complete (hd : Delivered done p) {domain : String}
    (hmore : more = [(domain, report)]) (hhandled : q.handled = p.handled)
    (h : q.undelivered = p.undelivered + {report}) : Delivered (done ++ more) q := by
  rw [Delivered] at hd
  rw [Delivered, hmore, hhandled, h, List.map_append, ← Multiset.coe_add, hd, List.map_singleton,
    Multiset.coe_singleton]
  abel

theorem Delivered.handle (hd : Delivered done p) (hmore : more = [])
    (hhandled : q.handled = report :: p.handled) (h : q.undelivered + {report} = p.undelivered) :
    Delivered (done ++ more) q := by
  rw [Delivered, ← h] at hd
  rw [Delivered, hmore, List.append_nil, hhandled, hd, ← Multiset.cons_coe,
    ← Multiset.singleton_add, add_assoc]

end Delivery

theorem delivered_step (hd : Delivered done p) (h : Step check p m q) :
    Delivered (done ++ p.completed check m) q := by
  cases h with
  | takeTurn hw ha ht => exact hd.passOn rfl rfl (undelivered_turn hw (by rw [ha]; rfl))
  | receive hw ha hq hs => exact hd.passOn rfl rfl (undelivered_turn hw (by rw [ha]; rfl))
  | leave hw ha hs => exact hd.passOn rfl rfl (undelivered_turn hw (by rw [ha]; rfl))
  | @complete i w domain hw ha hs =>
    have hdone : p.completed check (.complete i) = [(domain, (check domain p.world).1)] :=
      completed_complete (n := w.sent) (by rw [hw, ← ha])
    exact hd.complete hdone rfl (undelivered_complete hw (by rw [ha]; rfl) rfl)
  | abandon hw ha hs => exact hd.passOn rfl rfl (undelivered_turn hw (by rw [ha]; rfl))
  | send hw ha hroom => exact hd.passOn rfl rfl (undelivered_send hw ha rfl)
  | collect hc hr => exact hd.passOn rfl rfl (undelivered_collect hc hr)
  | handle hc => exact hd.handle rfl rfl (undelivered_handle hc)
  | close hc hr hw => exact hd.passOn rfl rfl (undelivered_close hc)
  | _ => exact hd.passOn rfl rfl rfl

section Awaiting

variable {i : Nat} {w : Worker ρ} {domain : String}

theorem awaiting_congr (hproducer : q.producer.inHand = p.producer.inHand)
    (hqueue : q.queue = p.queue) (hworkers : q.workers = p.workers) :
    q.awaiting = p.awaiting := by
  rw [awaiting, awaiting, hproducer, hqueue, hworkers]

theorem awaiting_take (hp : p.producer = .reading) :
    ({ p with producer := .offering domain } : Pipeline ε ρ σ).awaiting =
      p.awaiting + {domain} := by
  simp only [awaiting, hp, Producer.inHand]
  abel

theorem awaiting_offer (hp : p.producer = .offering domain) :
    ({ p with producer := .reading, queue := p.queue ++ [domain] } : Pipeline ε ρ σ).awaiting =
      p.awaiting := by
  simp only [awaiting, hp, Producer.inHand, ← Multiset.coe_add, Multiset.coe_singleton]
  abel

theorem awaiting_giveUp (hp : p.producer = .offering domain) :
    ({ p with producer := .finished } : Pipeline ε ρ σ).awaiting + {domain} = p.awaiting := by
  simp only [awaiting, hp, Producer.inHand]
  abel

theorem awaiting_receive {queue : List String} (hw : p.workers[i]? = some w)
    (ha : w.activity = .receiving) (hq : p.queue = domain :: queue) :
    ({ p with
        queue
        workers := p.workers.set i { w with activity := .checking domain } } :
      Pipeline ε ρ σ).awaiting = p.awaiting := by
  have hset := underCheck_set hw { w with activity := .checking domain }
  simp only [ha, Activity.underCheck, add_zero] at hset
  simp only [awaiting, hset, hq, ← Multiset.cons_coe, ← Multiset.singleton_add]
  abel

theorem awaiting_turn (hw : p.workers[i]? = some w) {v : Worker ρ}
    (hsame : v.activity.underCheck = w.activity.underCheck) :
    ({ p with workers := p.workers.set i v } : Pipeline ε ρ σ).awaiting = p.awaiting := by
  have hset := underCheck_set hw v
  rw [hsame, add_left_inj] at hset
  rw [awaiting, awaiting, hset]

theorem awaiting_drop (hw : p.workers[i]? = some w) (ha : w.activity = .checking domain)
    {v : Worker ρ} (hnone : v.activity.underCheck = 0) :
    ({ p with workers := p.workers.set i v } : Pipeline ε ρ σ).awaiting + {domain} =
      p.awaiting := by
  have hset := underCheck_set hw v
  rw [hnone, add_zero, ha] at hset
  rw [awaiting, awaiting, add_assoc, ← hset, Activity.underCheck]

end Awaiting

-- What a move may do to the account: pass domains on, read a row, complete a check, or lose a
-- domain.
section Account

variable {more : List (String × ρ)} {domain : String}

theorem Conserved.passOn (hc : Conserved rows done lost p) (hmore : more = [])
    (hrows : usable q.column (rows.take q.rowsRead) = usable p.column (rows.take p.rowsRead))
    (hgo : q.stopped = false → p.stopped = false) (h : q.awaiting = p.awaiting) :
    Conserved rows (done ++ more) lost q where
  domains := by rw [hmore, List.append_nil, hrows, ← hc.domains, h]
  kept hs := hc.kept (hgo hs)

theorem Conserved.readRow (hc : Conserved rows done lost p) (hmore : more = [])
    {row : Except ε (List String)}
    (hrows : usable q.column (rows.take q.rowsRead) =
      usable p.column (rows.take p.rowsRead ++ [row]))
    (hgo : q.stopped = p.stopped) (h : q.awaiting = p.awaiting + ↑(usable p.column [row])) :
    Conserved rows (done ++ more) lost q where
  domains := by
    rw [hmore, List.append_nil, hrows, usable_append, ← Multiset.coe_add, ← hc.domains, h]
    abel
  kept hs := hc.kept (hgo ▸ hs)

theorem Conserved.complete (hc : Conserved rows done lost p) {report : ρ}
    (hmore : more = [(domain, report)])
    (hrows : usable q.column (rows.take q.rowsRead) = usable p.column (rows.take p.rowsRead))
    (hgo : q.stopped = p.stopped) (h : q.awaiting + {domain} = p.awaiting) :
    Conserved rows (done ++ more) lost q where
  domains := by
    rw [hmore, hrows, ← hc.domains, ← h, List.map_append, ← Multiset.coe_add, List.map_singleton,
      Multiset.coe_singleton]
    abel
  kept hs := hc.kept (hgo ▸ hs)

theorem Conserved.lose (hc : Conserved rows done lost p) (hmore : more = [])
    (hrows : usable q.column (rows.take q.rowsRead) = usable p.column (rows.take p.rowsRead))
    (h : q.awaiting + {domain} = p.awaiting) (hstopped : q.stopped = true) :
    Conserved rows (done ++ more) ({domain} + lost) q where
  domains := by
    rw [hmore, List.append_nil, hrows, ← hc.domains, ← h]
    abel
  kept hs := absurd (hs.symm.trans hstopped) Bool.false_ne_true

end Account

theorem conserved_step (hc : Conserved rows done lost p) (hr : Reading rows p) (hd : Drained p)
    (hpos : p.workers ≠ []) (h : Step check p m q) :
    ∃ lost', Multiset.card lost' = Multiset.card lost + [m].countP Move.drops ∧
      Conserved rows (done ++ p.completed check m) lost' q := by
  cases h with
  | exhaust hp hi =>
    exact ⟨lost, rfl, hc.passOn rfl rfl id (awaiting_congr (by rw [hp]; rfl) rfl rfl)⟩
  | halt hp hi hs =>
    exact ⟨lost, rfl, hc.passOn rfl rfl id (awaiting_congr (by rw [hp]; rfl) rfl rfl)⟩
  | fault hp hi hs =>
    exact ⟨lost, rfl, hc.passOn rfl rfl nofun (awaiting_congr (by rw [hp]; rfl) rfl rfl)⟩
  | @take fields input domain hp hi hs hd' =>
    obtain ⟨-, htake, -⟩ := next_of_drop ((hr.rest (by rw [hp]; rfl)).symm.trans hi)
    refine ⟨lost, rfl, hc.readRow rfl (congrArg (usable p.column) htake) rfl ?_⟩
    rw [usable_ok_some hd']
    exact awaiting_take hp
  | @skip fields input notes hp hi hs hd' =>
    obtain ⟨-, htake, -⟩ := next_of_drop ((hr.rest (by rw [hp]; rfl)).symm.trans hi)
    refine ⟨lost, rfl, hc.readRow rfl (congrArg (usable p.column) htake) rfl ?_⟩
    rw [usable_ok_none hd']
    exact (add_zero p.awaiting).symm
  | offer hp hq hw => exact ⟨lost, rfl, hc.passOn rfl rfl id (awaiting_offer hp)⟩
  | giveUp hp hw =>
    have hstopped := hd.stopped_of_allFinished hpos hw (by rw [hp]; rfl)
    exact ⟨_, by simp [Move.drops], hc.lose rfl rfl (awaiting_giveUp hp) hstopped⟩
  | takeTurn hw ha ht =>
    exact ⟨lost, rfl, hc.passOn rfl rfl id (awaiting_turn hw (by rw [ha]; rfl))⟩
  | receive hw ha hq hs => exact ⟨lost, rfl, hc.passOn rfl rfl id (awaiting_receive hw ha hq)⟩
  | leave hw ha hs =>
    exact ⟨lost, rfl, hc.passOn rfl rfl id (awaiting_turn hw (by rw [ha]; rfl))⟩
  | @complete i w domain hw ha hs =>
    have hdone : p.completed check (.complete i) = [(domain, (check domain p.world).1)] :=
      completed_complete (n := w.sent) (by rw [hw, ← ha])
    exact ⟨lost, rfl, hc.complete hdone rfl rfl (awaiting_drop hw ha rfl)⟩
  | abandon hw ha hs =>
    exact ⟨_, by simp [Move.drops], hc.lose rfl rfl (awaiting_drop hw ha rfl) hs⟩
  | send hw ha hroom =>
    exact ⟨lost, rfl, hc.passOn rfl rfl id (awaiting_turn hw (by rw [ha]; rfl))⟩
  | cancel hcan => exact ⟨lost, rfl, hc.passOn rfl rfl nofun rfl⟩
  | _ => exact ⟨lost, rfl, hc.passOn rfl rfl id rfl⟩

end Pipeline

end MailAudit.Batch
