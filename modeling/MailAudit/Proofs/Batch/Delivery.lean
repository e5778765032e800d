import MailAudit.Batch.Scan
import MailAudit.Proofs.Batch.Conservation
import MailAudit.Proofs.Batch.Progress

namespace MailAudit.Batch

def Producer.hasFailed {ε : Type} : Producer ε → Bool
  | .failed _ _ => true
  | _ => false

namespace Pipeline

variable {ε ρ σ : Type} {check : String → σ → ρ × σ} {p q : Pipeline ε ρ σ} {m : Move}
  {ms : List Move} {rows : List (Except ε (List String))} {done : List (String × ρ)}

def Flagged (p : Pipeline ε ρ σ) : Prop :=
  p.stopped = (p.cancelled || p.producer.hasFailed)

def Ended (rows : List (Except ε (List String))) (p : Pipeline ε ρ σ) : Prop :=
  p.producer = .finished → p.stopped = false → p.rowsRead = rows.length

theorem flagged_step (hf : Flagged p) (h : Step check p m q) : Flagged q := by
  simp only [Flagged] at hf ⊢
  cases h with
  | exhaust hp hi => simpa [hp, Producer.hasFailed] using hf
  | halt hp hi hs => simpa [hp, Producer.hasFailed] using hf
  | fault hp hi hs => simp [Producer.hasFailed]
  | take hp hi hs hd => simpa [hp, Producer.hasFailed] using hf
  | offer hp hq hw => simpa [hp, Producer.hasFailed] using hf
  | giveUp hp hw => simpa [hp, Producer.hasFailed] using hf
  | cancel hc => simp
  | _ => exact hf

theorem ended_step (he : Ended rows p) (hr : Reading rows p) (hd : Drained p)
    (hpos : p.workers ≠ []) (h : Step check p m q) : Ended rows q := by
  cases h with
  | exhaust hp hi =>
      intro _ _
      have hdrop : rows.drop p.rowsRead = [] := by rw [← hr.rest (by rw [hp]; rfl), hi]
      exact Nat.le_antisymm hr.le (List.drop_eq_nil_iff.mp hdrop)
  | halt hp hi hs =>
      intro _ hs'
      rw [hs] at hs'
      cases hs'
  | fault hp hi hs => exact nofun
  | take hp hi hs hd' => exact nofun
  | skip hp hi hs hd' =>
      intro hp'
      rw [hp] at hp'
      cases hp'
  | offer hp hq hw => exact nofun
  | giveUp hp hw =>
      intro _ hs
      obtain ⟨u, hu⟩ := List.exists_mem_of_ne_nil _ hpos
      have hdone := (hd hs ⟨u, hu, List.all_eq_true.mp hw u hu⟩).1
      rw [hp] at hdone
      cases hdone
  | cancel hc => exact fun _ => nofun
  | _ => exact he

structure Sound (rows : List (Except ε (List String))) (done : List (String × ρ))
    (p : Pipeline ε ρ σ) : Prop where
  manned : p.workers ≠ []
  reading : Reading rows p
  drained : Drained p
  closed : Closed p
  delivered : Delivered done p
  conserved : ∃ lost, Conserved rows done lost p
  flagged : Flagged p
  ended : Ended rows p

theorem workers_ne_nil_step (hpos : p.workers ≠ []) (h : Step check p m q) : q.workers ≠ [] := by
  cases h <;> simpa using hpos

theorem Sound.step (hs : Sound rows done p) (h : Step check p m q) :
    Sound rows (done ++ p.completed check m) q where
  manned := workers_ne_nil_step hs.manned h
  reading := reading_step hs.reading h
  drained := drained_step hs.drained hs.manned h
  closed := closed_step hs.closed h
  delivered := delivered_step hs.delivered h
  conserved := by
    obtain ⟨lost, hc⟩ := hs.conserved
    obtain ⟨lost', -, hc'⟩ := conserved_step hc hs.reading hs.drained hs.manned h
    exact ⟨lost', hc'⟩
  flagged := flagged_step hs.flagged h
  ended := ended_step hs.ended hs.reading hs.drained hs.manned h

theorem conserved_start (column poolSize : Nat) (cancelled : Bool) (world : σ) :
    Conserved rows [] 0 (start column poolSize cancelled rows world : Pipeline ε ρ σ) := by
  refine ⟨?_, fun _ => rfl⟩
  simp [awaiting, start, underCheck, Activity.underCheck, Producer.inHand, usable]

theorem sound_start {column poolSize : Nat} {cancelled : Bool} {world : σ} (hpool : 1 ≤ poolSize) :
    Sound rows [] (start column poolSize cancelled rows world : Pipeline ε ρ σ) where
  manned := by simp only [start, ne_eq, List.replicate_eq_nil_iff]; omega
  reading := ⟨Nat.zero_le _, fun _ => rfl, rfl, nofun⟩
  drained := by
    rintro - ⟨w, hw, hf⟩
    obtain rfl : w = {} := List.eq_of_mem_replicate hw
    cases hf
  closed := nofun
  delivered := by simp [Delivered, undelivered, start, ready, Activity.ready, Collector.inHand]
  conserved := ⟨0, conserved_start column poolSize cancelled world⟩
  flagged := by simp [Flagged, start, Producer.hasFailed]
  ended := nofun

theorem Run.sound {p₀ : Pipeline ε ρ σ} (hs : Sound rows [] p₀) (h : Run check p₀ ms done q) :
    Sound rows done q := by
  induction h with
  | refl => exact hs
  | tail _ hstep ih => exact ih.step (step_of_step? hstep)

theorem Sound.canMove (hs : Sound rows done p) (h : ¬ p.Final) : CanMove check p :=
  canMove_of_not_final hs.closed hs.manned h

theorem underCheck_of_allFinished (h : p.allFinished = true) : underCheck p.workers = 0 := by
  refine List.sum_eq_zero ?_
  intro s hs
  obtain ⟨w, hw, rfl⟩ := List.mem_map.mp hs
  have hf : w.activity.isFinished = true := List.all_eq_true.mp h w hw
  cases ha : w.activity <;> simp_all [Activity.isFinished, Activity.underCheck]

theorem ready_of_allFinished (h : p.allFinished = true) : ready p.workers = 0 := by
  refine List.sum_eq_zero ?_
  intro s hs
  obtain ⟨w, hw, rfl⟩ := List.mem_map.mp hs
  have hf : w.activity.isFinished = true := List.all_eq_true.mp h w hw
  cases ha : w.activity <;> simp_all [Activity.isFinished, Activity.ready]

theorem Sound.reports_of_final (hs : Sound rows done p) (h : p.Final) :
    (↑p.reports : Multiset ρ) = ↑(done.map Prod.snd) := by
  obtain ⟨hcol, hf, -⟩ := h
  have hd := hs.delivered
  simp only [Delivered, undelivered, ready_of_allFinished hf, (hs.closed hcol).2, hcol,
    Collector.inHand, Multiset.coe_nil, add_zero, zero_add] at hd
  rw [hd, reports, Multiset.coe_reverse]

theorem Sound.checked_le (hs : Sound rows done p) :
    (↑(done.map Prod.fst) : Multiset String) ≤ ↑(usable p.column (rows.take p.rowsRead)) := by
  obtain ⟨lost, hc⟩ := hs.conserved
  rw [← hc.domains]
  exact (Multiset.le_add_left _ _).trans (Multiset.le_add_right _ _)

theorem Sound.checked_of_final (hs : Sound rows done p) (h : p.Final) (hgo : p.stopped = false) :
    (↑(done.map Prod.fst) : Multiset String) = ↑(usable p.column rows) ∧
      p.rowsRead = rows.length := by
  obtain ⟨-, hf, hdone⟩ := h
  obtain ⟨lost, hc⟩ := hs.conserved
  have hproducer : p.producer = .finished := by
    have hflag := hs.flagged
    cases hp : p.producer with
    | finished => rfl
    | failed row e => simp [Flagged, hp, hgo, Producer.hasFailed] at hflag
    | _ => simp [hp, Producer.isDone] at hdone
  obtain ⟨w, hw⟩ := List.exists_mem_of_ne_nil _ hs.manned
  have hqueue : p.queue = [] := (hs.drained hgo ⟨w, hw, List.all_eq_true.mp hf w hw⟩).2
  have hread : p.rowsRead = rows.length := hs.ended hproducer hgo
  have hdom := hc.domains
  simp only [awaiting, hproducer, Producer.inHand, hqueue, underCheck_of_allFinished hf,
    hc.kept hgo, Multiset.coe_nil, add_zero, zero_add, hread, List.take_length] at hdom
  exact ⟨hdom, hread⟩

theorem Sound.length_done_of_final (hs : Sound rows done p) (h : p.Final) :
    done.length = p.handled.length := by
  have hcard := congrArg Multiset.card (hs.reports_of_final h)
  simpa [reports] using hcard.symm

section Readable

variable {records : List (List String)}

theorem Sound.ne_failed (hs : Sound (records.map Except.ok) done p) (row : Nat) (e : ε) :
    p.producer ≠ .failed row e := by
  intro hp
  have herror := (hs.reading.failed row e hp).2
  rw [List.getElem?_map, Option.map_eq_some_iff] at herror
  obtain ⟨_, _, herror⟩ := herror
  cases herror

theorem Sound.stopped_eq (hs : Sound (records.map Except.ok) done p) : p.stopped = p.cancelled := by
  have hflag : p.stopped = (p.cancelled || p.producer.hasFailed) := hs.flagged
  cases hp : p.producer with
  | failed row e => exact absurd hp (hs.ne_failed row e)
  | _ => simpa [hp, Producer.hasFailed] using hflag

theorem Sound.outcome_eq (hs : Sound (records.map Except.ok) done p) :
    p.outcome = .ok p.summary := by
  simp only [outcome]
  split
  · rename_i row e hp
    exact absurd hp (hs.ne_failed row e)
  · rfl

theorem usable_ok (column : Nat) (records : List (List String)) :
    usable column (records.map (Except.ok (ε := ε))) = records.filterMap (domainIn? column) := by
  simp only [usable, List.filterMap_map]
  rfl

theorem countP_add_length_filterMap {α β : Type} (g : α → Option β) (l : List α) :
    l.countP (fun a => (g a).isNone) + (l.filterMap g).length = l.length := by
  induction l with
  | nil => rfl
  | cons a rest ih =>
      cases hg : g a with
      | none => simp only [List.countP_cons, hg, List.filterMap_cons, List.length_cons]; simp; omega
      | some b =>
        simp only [List.countP_cons, hg, List.filterMap_cons, List.length_cons]; simp; omega

theorem Sound.rows_of_final (hs : Sound (records.map Except.ok) done p) (h : p.Final)
    (hgo : p.stopped = false) :
    (↑(done.map Prod.fst) : Multiset String) = ↑(records.filterMap (domainIn? p.column)) ∧
      p.rowsRead = records.length ∧
      p.rowsSkipped = records.countP fun r => (domainIn? p.column r).isNone := by
  obtain ⟨hchecked, hread⟩ := hs.checked_of_final h hgo
  rw [usable_ok] at hchecked
  rw [List.length_map] at hread
  have hskipped := hs.reading.skipped
  have hcount := countP_add_length_filterMap (domainIn? p.column) records
  rw [hread, ← List.map_take, usable_ok, List.take_length] at hskipped
  exact ⟨hchecked, hread, by omega⟩

end Readable

theorem length_handled_step (h : Step check p m q) :
    q.handled.length = p.handled.length + [m].count .handle := by
  cases h <;> simp

theorem Run.length_handled (h : Run check p ms done q) :
    q.handled.length = p.handled.length + ms.count .handle := by
  induction h with
  | refl => simp
  | tail _ hstep ih =>
    rw [length_handled_step (step_of_step? hstep), ih, List.count_append, add_assoc]

theorem Run.column_eq (h : Run check p ms done q) : q.column = p.column := by
  induction h with
  | refl => rfl
  | tail _ hstep ih => rw [← ih]; cases step_of_step? hstep <;> rfl

theorem Run.cancelled_eq (h : Run check p ms done q) (hms : .cancel ∉ ms) :
    q.cancelled = p.cancelled := by
  induction h with
  | refl => rfl
  | @tail ms done q m r _ hstep ih =>
      simp only [List.mem_append, List.mem_singleton, not_or] at hms
      rw [← ih hms.1]
      cases step_of_step? hstep with
      | cancel hc => exact absurd rfl hms.2
      | _ => rfl

theorem Run.exists_world (h : Run check p ms done q) :
    ∀ e ∈ done, ∃ w, e.2 = (check e.1 w).1 := by
  induction h with
  | refl => simp
  | @tail ms done q m r _ hstep ih =>
      intro e he
      rcases List.mem_append.mp he with he | he
      · exact ih e he
      · cases step_of_step? hstep with
        | @complete i w domain hw ha hs =>
            rw [completed_complete (n := w.sent) (by rw [hw, ← ha]), List.mem_singleton] at he
            exact ⟨q.world, by rw [he]⟩
        | _ => simp [completed] at he

theorem Run.map_snd_done {f : String → ρ} (hf : ∀ domain w, (check domain w).1 = f domain)
    (h : Run check p ms done q) : done.map Prod.snd = (done.map Prod.fst).map f := by
  rw [List.map_map]
  refine List.map_congr_left fun e he => ?_
  obtain ⟨w, hw⟩ := h.exists_world e he
  exact hw.trans (hf e.1 w)

theorem Run.reports_perm {f : String → ρ} (hf : ∀ domain w, (check domain w).1 = f domain)
    {column poolSize : Nat} (hpool : 1 ≤ poolSize) {records : List (List String)} {world : σ}
    (hms : .cancel ∉ ms)
    (h : Run check (start column poolSize false (records.map .ok) world) ms done q)
    (hfin : q.Final) : q.reports.Perm ((records.filterMap (domainIn? column)).map f) := by
  have hs : Sound (records.map .ok) done q := h.sound (sound_start hpool)
  have hgo : q.stopped = false := hs.stopped_eq.trans (h.cancelled_eq hms)
  have hcolumn : q.column = column := h.column_eq
  have hchecked := (hs.rows_of_final hfin hgo).1
  rw [hcolumn] at hchecked
  rw [← Multiset.coe_eq_coe, hs.reports_of_final hfin, h.map_snd_done hf,
    ← Multiset.map_coe, hchecked, Multiset.map_coe]

theorem Sound.exists_final (hs : Sound rows done p) :
    ∃ ms done' q, .cancel ∉ ms ∧ Run check p ms done' q ∧ q.Final := by
  -- On the work that is left.
  induction hn : p.work using Nat.strong_induction_on generalizing p done with
  | _ n ih =>
    by_cases hfin : p.Final
    · exact ⟨[], [], p, List.not_mem_nil, .refl, hfin⟩
    · have hmove : CanMove check p := hs.canMove hfin
      obtain ⟨m, hm, hsome⟩ := hmove
      obtain ⟨r, hstep⟩ := Option.isSome_iff_exists.mp hsome
      obtain ⟨ms, done', q, hms, hrun, hfin⟩ :=
        ih r.work (hn ▸ work_lt_of_step? hstep) (hs.step (step_of_step? hstep)) rfl
      refine ⟨m :: ms, _, q, ?_, Run.head hstep hrun, hfin⟩
      rw [List.mem_cons, not_or]
      exact ⟨hm.symm, hms⟩

theorem cancelWork_le (cancelled : Bool) : cancelWork cancelled ≤ 1 := by
  cases cancelled <;> decide

theorem work_start (column poolSize : Nat) (cancelled : Bool) (world : σ) :
    (start column poolSize cancelled rows world : Pipeline ε ρ σ).work =
      8 * rows.length + 2 * poolSize + 2 + cancelWork cancelled := by
  have hidle (n : Nat) : workersWork (List.replicate n ({} : Worker ρ)) = 2 * n := by
    induction n with
    | zero => rfl
    | succ n ih =>
        simp only [workersWork, List.replicate_succ, List.map_cons, sumOf, Activity.work] at ih ⊢
        omega
  simp only [work, start, hidle, Producer.work, Collector.work, List.length_nil]
  omega

theorem uncancelled_run_delivers_each_row_once (f : String → ρ) (next : String → σ → σ)
    (column : Nat) {poolSize : Nat} (hpool : 1 ≤ poolSize) (records : List (List String))
    (world : σ) {ms : List Move} {done : List (String × ρ)} {q : Pipeline ε ρ σ}
    (hms : .cancel ∉ ms)
    (h : Run (fun domain w => (f domain, next domain w))
      (start column poolSize false (records.map .ok) world) ms done q) :
    ms.length ≤ 8 * records.length + 2 * poolSize + 3 ∧
    (CanMove (fun domain w => (f domain, next domain w)) q ↔ ¬ q.Final) ∧
    (q.Final →
      (↑q.reports : Multiset ρ) = ↑((records.filterMap (domainIn? column)).map f) ∧
      ms.count .handle + records.countP (fun r => (domainIn? column r).isNone) = records.length ∧
      q.outcome = .ok
        { rowsRead := records.length
          rowsSkipped := records.countP fun r => (domainIn? column r).isNone
          domainsChecked := ms.count .handle
          cancelled := false }) := by
  have hs : Sound (records.map .ok) done q := h.sound (sound_start hpool)
  have hcolumn : q.column = column := h.column_eq
  have hgo : q.cancelled = false := h.cancelled_eq hms
  refine ⟨?_, ⟨fun hmove hfin => not_canMove_of_final hfin hmove, hs.canMove⟩, ?_⟩
  · have hbound := h.length_add_work_le
    simp only [work_start, List.length_map, cancelWork] at hbound
    omega
  · intro hfin
    have hstopped : q.stopped = false := hs.stopped_eq.trans hgo
    obtain ⟨hchecked, hread, hskipped⟩ := hs.rows_of_final hfin hstopped
    rw [hcolumn] at hchecked hskipped
    have hreport : done.map Prod.snd = (done.map Prod.fst).map f := by
      rw [List.map_map]
      refine List.map_congr_left fun e he => ?_
      obtain ⟨w, hw⟩ := h.exists_world e he
      exact hw
    have hreports :
        (↑q.reports : Multiset ρ) = ↑((records.filterMap (domainIn? column)).map f) := by
      rw [hs.reports_of_final hfin, hreport, ← Multiset.map_coe, hchecked, Multiset.map_coe]
    have hhandled : q.handled.length = ms.count .handle := by
      simpa [start] using h.length_handled
    have hlength := congrArg Multiset.card hchecked
    rw [Multiset.coe_card, Multiset.coe_card, List.length_map, hs.length_done_of_final hfin,
      hhandled] at hlength
    refine ⟨hreports, ?_, ?_⟩
    · rw [hlength, add_comm]
      exact countP_add_length_filterMap (domainIn? column) records
    · rw [hs.outcome_eq, summary, hread, hskipped, hhandled, hgo]

theorem uncancelled_run_delivers_one_of_two_rows :
    ∃ (ms : List Move) (done : List (String × Nat)) (q : Pipeline Unit Nat Unit),
      1 ≤ 1 ∧ .cancel ∉ ms ∧
      Run (fun domain w => (domain.length, w))
        (start 0 1 false ([["a.example"], [" "]].map .ok) ()) ms done q ∧
      q.Final ∧ (↑q.reports : Multiset Nat) = ↑[9] := by
  have hfollow :
    (start 0 1 false ([["a.example"], [" "]].map .ok) () : Pipeline Unit Nat Unit).follow?
      (fun domain w => (domain.length, w))
      [.read, .offer, .takeTurn 0, .receive 0, .complete 0, .send 0, .collect, .handle,
        .read, .read, .takeTurn 0, .leave 0, .close] = some ([("a.example", 9)], _) := rfl
  have hrun := run_of_follow? hfollow
  refine ⟨_, _, _, le_rfl, by decide, hrun, ⟨rfl, rfl, rfl⟩, ?_⟩
  exact ((uncancelled_run_delivers_each_row_once String.length (fun _ w => w) 0 le_rfl _ ()
    (by decide) hrun).2.2 ⟨rfl, rfl, rfl⟩).1

end Pipeline

end MailAudit.Batch
