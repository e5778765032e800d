import MailAudit.Proofs.Batch.Backpressure

namespace MailAudit.Batch

variable {ε ρ σ : Type}

def checkAll (check : String → σ → ρ × σ) : List String → σ → List ρ × σ
  | [], world => ([], world)
  | domain :: rest, world =>
      let (report, world) := check domain world
      let (reports, world) := checkAll check rest world
      (report :: reports, world)

section CheckAll

variable {check : String → σ → ρ × σ}

theorem checkAll_append (ds es : List String) (world : σ) :
    checkAll check (ds ++ es) world =
      ((checkAll check ds world).1 ++ (checkAll check es (checkAll check ds world).2).1,
        (checkAll check es (checkAll check ds world).2).2) := by
  induction ds generalizing world with
  | nil => rfl
  | cons d ds ih => simp only [List.cons_append, checkAll, ih]

theorem checkAll_take (ds : List String) (n : Nat) (world : σ) :
    (checkAll check (ds.take n) world).1 = (checkAll check ds world).1.take n := by
  induction ds generalizing n world with
  | nil => simp only [List.take_nil, checkAll]
  | cons d ds ih =>
    cases n with
    | zero => rfl
    | succ n => simp only [List.take_succ_cons, checkAll, ih]

end CheckAll

def Producer.line : Producer ε → List String
  | .offering domain => [domain]
  | _ => []

def Activity.line : Activity ρ → List String
  | .checking domain => [domain]
  | _ => []

def Activity.reports : Activity ρ → List ρ
  | .offering report => [report]
  | _ => []

def Collector.reports : Collector ρ → List ρ
  | .handling report => [report]
  | _ => []

namespace Pipeline

variable {check : String → σ → ρ × σ} {p q : Pipeline ε ρ σ} {m : Move} {ms : List Move}
  {rows : List (Except ε (List String))} {done : List (String × ρ)} {w : Worker ρ}

theorem Run.checkAll_done (h : Run check p ms done q) :
    checkAll check (done.map Prod.fst) p.world = (done.map Prod.snd, q.world) := by
  induction h with
  | refl => rfl
  | @tail ms done q m r hrun hstep ih =>
    rw [List.map_append, List.map_append, checkAll_append, ih]
    cases step_of_step? hstep with
    | @complete i w domain hw ha hs =>
      rw [completed_complete (n := w.sent) (by rw [hw, ← ha])]
      rfl
    | _ => simp [completed, checkAll]

def underway (p : Pipeline ε ρ σ) : List String :=
  (p.workers.flatMap fun w => w.activity.line) ++ (p.queue ++ p.producer.line)

def unhandled (p : Pipeline ε ρ σ) : List ρ :=
  p.collector.reports ++ (p.results ++ p.workers.flatMap fun w => w.activity.reports)

section Alone

variable {i : Nat} {α : Type} (hone : p.workers.length = 1) (hw : p.workers[i]? = some w)

include hone hw

theorem workers_eq : i = 0 ∧ p.workers = [w] := by
  obtain ⟨u, hu⟩ := List.length_eq_one_iff.mp hone
  obtain ⟨hi, heq⟩ := List.getElem?_eq_some_iff.mp hw
  have hzero : i = 0 := by omega
  subst hzero
  refine ⟨rfl, ?_⟩
  rw [hu, ← heq]
  simp only [hu, List.getElem_cons_zero]

theorem flatMap_alone (f : Worker ρ → List α) : p.workers.flatMap f = f w := by
  rw [(workers_eq hone hw).2, List.flatMap_singleton]

theorem set_alone (v : Worker ρ) : p.workers.set i v = [v] := by
  obtain ⟨rfl, heq⟩ := workers_eq hone hw
  rw [heq, List.set_cons_zero]

theorem allFinished_alone : p.allFinished = w.activity.isFinished := by
  rw [allFinished, (workers_eq hone hw).2, List.all_cons, List.all_nil, Bool.and_true]

end Alone

def Reported (done : List (String × ρ)) (p : Pipeline ε ρ σ) : Prop :=
  done.map Prod.snd = p.reports ++ p.unhandled

theorem reported_step (hone : p.workers.length = 1) (hd : Reported done p) (h : Step check p m q) :
    Reported (done ++ p.completed check m) q := by
  simp only [Reported, unhandled, reports] at hd ⊢
  cases h with
  | @complete i w domain hw ha hs =>
    rw [flatMap_alone hone hw, ha] at hd
    rw [set_alone hone hw, completed_complete (n := w.sent) (by rw [hw, ← ha])]
    simp only [Activity.reports, List.append_nil] at hd
    simp [Activity.reports, hd]
  | takeTurn hw ha _ | receive hw ha _ _ | leave hw ha _ | abandon hw ha _ | send hw ha _ =>
    rw [flatMap_alone hone hw, ha] at hd
    rw [set_alone hone hw]
    simpa [completed, Activity.reports] using hd
  | collect hc hr => simpa [completed, hc, hr, Collector.reports] using hd
  | handle hc => simpa [completed, hc, Collector.reports] using hd
  | close hc hr hw => simpa [completed, hc, Collector.reports] using hd
  | _ => simpa [completed] using hd

/-- The domains of the completed checks are the first ones of the input. While the worker is there,
the domains behind them are on their way to it. -/
structure Ordered (rows : List (Except ε (List String))) (done : List (String × ρ))
    (p : Pipeline ε ρ σ) : Prop where
  checked : done.map Prod.fst <+: usable p.column (rows.take p.rowsRead)
  line : p.allFinished = false →
    done.map Prod.fst ++ p.underway = usable p.column (rows.take p.rowsRead)

theorem Ordered.of_line
    (h : done.map Prod.fst ++ p.underway = usable p.column (rows.take p.rowsRead)) :
    Ordered rows done p :=
  ⟨⟨_, h⟩, fun _ => h⟩

theorem Ordered.line_of_worker (ho : Ordered rows done p) (hone : p.workers.length = 1) {i : Nat}
    (hw : p.workers[i]? = some w) (ha : w.activity.isFinished = false) :
    done.map Prod.fst ++ (w.activity.line ++ (p.queue ++ p.producer.line)) =
      usable p.column (rows.take p.rowsRead) := by
  have hline := ho.line ((allFinished_alone hone hw).trans ha)
  rwa [underway, flatMap_alone hone hw] at hline

theorem Ordered.take (ho : Ordered rows done p) (hp : p.producer = .reading)
    {fields : List String} {domain : String} (hd : domainIn? p.column fields = some domain)
    (htake : rows.take (p.rowsRead + 1) = rows.take p.rowsRead ++ [.ok fields]) :
    Ordered rows done { p with producer := .offering domain, rowsRead := p.rowsRead + 1 } where
  checked := by
    rw [htake, usable_append]
    exact ho.checked.trans (List.prefix_append _ _)
  line hf := by
    rw [htake, usable_append, usable_ok_some hd, ← ho.line hf]
    simp [underway, hp, Producer.line]

theorem Ordered.skip (ho : Ordered rows done p) {fields : List String}
    (hd : domainIn? p.column fields = none)
    (htake : rows.take (p.rowsRead + 1) = rows.take p.rowsRead ++ [.ok fields]) :
    Ordered rows done { p with rowsRead := p.rowsRead + 1 } := by
  have hsame :
      usable p.column (rows.take (p.rowsRead + 1)) = usable p.column (rows.take p.rowsRead) := by
    rw [htake, usable_append, usable_ok_none hd, List.append_nil]
  exact ⟨hsame ▸ ho.checked, fun hf => (ho.line hf).trans hsame.symm⟩

theorem Ordered.of_worker (ho : Ordered rows done p) (hone : p.workers.length = 1) {i : Nat}
    (hw : p.workers[i]? = some w) (ha : w.activity.isFinished = false) {more : List (String × ρ)}
    (hrows : usable q.column (rows.take q.rowsRead) = usable p.column (rows.take p.rowsRead))
    (hline : more.map Prod.fst ++ q.underway =
      w.activity.line ++ (p.queue ++ p.producer.line)) : Ordered rows (done ++ more) q := by
  apply Ordered.of_line
  rw [hrows, ← ho.line_of_worker hone hw ha, List.map_append, List.append_assoc, hline]

theorem ordered_step (hone : p.workers.length = 1) (ho : Ordered rows done p) (hr : Reading rows p)
    (h : Step check p m q) : Ordered rows (done ++ p.completed check m) q := by
  cases h with
  | exhaust hp _ | halt hp _ _ | fault hp _ _ =>
    simp only [completed, List.append_nil]
    exact ⟨ho.checked, fun hf => by simpa only [underway, hp, Producer.line] using ho.line hf⟩
  | take hp hi _ hd =>
    obtain ⟨-, htake, -⟩ := next_of_drop ((hr.rest (by rw [hp]; rfl)).symm.trans hi)
    obtain ⟨hchecked, hline⟩ := ho.take hp hd htake
    simp only [completed, List.append_nil]
    exact ⟨hchecked, hline⟩
  | skip hp hi _ hd =>
    obtain ⟨-, htake, -⟩ := next_of_drop ((hr.rest (by rw [hp]; rfl)).symm.trans hi)
    obtain ⟨hchecked, hline⟩ := ho.skip hd htake
    simp only [completed, List.append_nil]
    exact ⟨hchecked, hline⟩
  | offer hp _ hw =>
    simp only [completed, List.append_nil]
    apply Ordered.of_line
    rw [← ho.line hw]
    simp [underway, hp, Producer.line]
  | giveUp _ hw =>
    simp only [completed, List.append_nil]
    refine ⟨ho.checked, fun hf => ?_⟩
    rw [show p.allFinished = false from hf] at hw
    cases hw
  | takeTurn hw ha _ | send hw ha _ =>
    refine ho.of_worker hone hw (by rw [ha]; rfl) rfl ?_
    rw [underway, set_alone hone hw, ha]
    rfl
  | receive hw ha hq _ =>
    refine ho.of_worker hone hw (by rw [ha]; rfl) rfl ?_
    rw [underway, set_alone hone hw, ha, hq]
    rfl
  | leave hw _ _ | abandon hw _ _ =>
    simp only [completed, List.append_nil, set_alone hone hw]
    exact ⟨ho.checked, fun hf => by cases hf⟩
  | @complete i w domain hw ha _ =>
    refine ho.of_worker hone hw (by rw [ha]; rfl) rfl ?_
    rw [completed_complete (n := w.sent) (by rw [hw, ← ha]), underway, set_alone hone hw, ha]
    rfl
  | _ =>
    simp only [completed, List.append_nil]
    exact ⟨ho.checked, ho.line⟩

theorem reported_start (column : Nat) (cancelled : Bool) (world : σ) :
    Reported [] (start column 1 cancelled rows world : Pipeline ε ρ σ) :=
  rfl

theorem ordered_start (column : Nat) (cancelled : Bool) (world : σ) :
    Ordered rows [] (start column 1 cancelled rows world : Pipeline ε ρ σ) :=
  .of_line rfl

theorem Run.reported (hb : Bounded 1 p) (hd : Reported [] p) (h : Run check p ms done q) :
    Reported done q := by
  induction h with
  | refl => exact hd
  | tail hrun hstep ih => exact reported_step (hrun.bounded hb).workers ih (step_of_step? hstep)

theorem Run.ordered (hs : Sound rows [] p) (hb : Bounded 1 p) (ho : Ordered rows [] p)
    (h : Run check p ms done q) : Ordered rows done q := by
  induction h with
  | refl => exact ho
  | tail hrun hstep ih =>
    exact ordered_step (hrun.bounded hb).workers ih (hrun.sound hs).reading (step_of_step? hstep)

theorem Reported.reports_eq (hd : Reported done p) :
    p.reports = (done.map Prod.snd).take p.handled.length := by
  have hlength : p.reports.length = p.handled.length := List.length_reverse
  rw [hd, ← hlength, List.take_left]

theorem Sound.not_stopped_of_outcome {summary : Summary} (hs : Sound rows done p)
    (h : p.outcome = .ok summary) (hgo : summary.cancelled = false) : p.stopped = false := by
  have hflag : p.stopped = (p.cancelled || p.producer.hasFailed) := hs.flagged
  rw [outcome] at h
  split at h
  · cases h
  · rename_i hnofault
    cases h
    rw [hflag, show p.cancelled = false from hgo, Bool.false_or]
    cases hp : p.producer with
    | failed row e => exact absurd hp (hnofault row e)
    | _ => rfl

theorem Reported.length_handled_le (hd : Reported done p) : p.handled.length ≤ done.length := by
  have hlength := congrArg List.length hd
  simp only [reports, List.length_append, List.length_map, List.length_reverse] at hlength
  omega

theorem Ordered.prefix_usable (ho : Ordered rows done p) :
    done.map Prod.fst <+: usable p.column rows :=
  ho.checked.trans ((List.take_prefix _ _).filterMap _)

theorem Run.reports_eq_checkAll (h : Run check p ms done q) (hd : Reported done q)
    (ho : Ordered rows done q) :
    q.reports = (checkAll check ((usable q.column rows).take q.handled.length) p.world).1 := by
  have hall : done.map Prod.snd = (checkAll check (done.map Prod.fst) p.world).1 :=
    (congrArg Prod.fst h.checkAll_done).symm
  have htake :
      (done.map Prod.fst).take q.handled.length = (usable q.column rows).take q.handled.length := by
    rw [List.prefix_iff_eq_take.mp ho.prefix_usable, List.take_take, List.length_map,
      Nat.min_eq_left hd.length_handled_le]
  rw [hd.reports_eq, hall, ← checkAll_take, htake]

theorem Sound.length_handled_of_final (hs : Sound rows done p) (hfin : p.Final)
    (hgo : p.stopped = false) :
    p.handled.length = (usable p.column rows).length := by
  have hcard := congrArg Multiset.card (hs.checked_of_final hfin hgo).1
  rw [Multiset.coe_card, Multiset.coe_card, List.length_map] at hcard
  rw [← hs.length_done_of_final hfin, hcard]

/-- With one worker the reports handed on are at any moment those of the first usable rows, in the
order of the rows. A run that ends without a stop and without a fault of its input has handed on
those of all usable rows. -/
theorem single_worker_keeps_order (check : String → σ → ρ × σ) (column : Nat)
    (rows : List (Except ε (List String))) (cancelled : Bool) (world : σ)
    (h : Run check (start column 1 cancelled rows world) ms done q) :
    ms.length ≤ 8 * rows.length + 5 ∧
    (CanMove check q ↔ ¬ q.Final) ∧
    q.handled.length ≤ (usable column rows).length ∧
    q.reports = (checkAll check ((usable column rows).take q.handled.length) world).1 ∧
    (q.Final → ∀ summary, q.outcome = .ok summary → summary.cancelled = false →
      q.reports = (checkAll check (usable column rows) world).1) := by
  have hstart : Sound rows [] (start column 1 cancelled rows world : Pipeline ε ρ σ) :=
    sound_start le_rfl
  have hbounded : Bounded 1 (start column 1 cancelled rows world : Pipeline ε ρ σ) :=
    bounded_start column 1 cancelled world
  have hs : Sound rows done q := h.sound hstart
  have hd : Reported done q := h.reported hbounded (reported_start column cancelled world)
  have ho : Ordered rows done q := h.ordered hstart hbounded (ordered_start column cancelled world)
  have hreports := h.reports_eq_checkAll hd ho
  obtain rfl : q.column = column := h.column_eq
  refine ⟨?_, ⟨fun hmove hfin => not_canMove_of_final hfin hmove, hs.canMove⟩, ?_, hreports, ?_⟩
  · have hbound := h.length_add_work_le
    have hcancel := cancelWork_le cancelled
    rw [work_start] at hbound
    omega
  · have hlength := ho.prefix_usable.length_le
    rw [List.length_map] at hlength
    exact hd.length_handled_le.trans hlength
  · intro hfin summary hok hgo
    have hevery := hs.length_handled_of_final hfin (hs.not_stopped_of_outcome hok hgo)
    rw [hreports, hevery, List.take_length]
    rfl

theorem stop_cuts_rows_to_a_prefix :
    ∃ (ms : List Move) (done : List (String × (String × Nat)))
        (q : Pipeline Unit (String × Nat) Nat),
      Run (fun domain n => ((domain, n), n + 1))
        (start 0 1 false ([["a"], [" "], ["b"], ["c"], ["d"], ["e"]].map .ok) 7) ms done q ∧
      .cancel ∈ ms ∧ q.Final ∧ q.reports = [("a", 7), ("b", 8)] ∧
      q.reports = (checkAll (fun domain n => ((domain, n), n + 1))
        ((usable 0 (([["a"], [" "], ["b"], ["c"], ["d"], ["e"]] : List (List String)).map
          (Except.ok (ε := Unit)))).take 2) 7).1 := by
  have hfollow : (start 0 1 false ([["a"], [" "], ["b"], ["c"], ["d"], ["e"]].map .ok) 7 :
        Pipeline Unit (String × Nat) Nat).follow? (fun domain n => ((domain, n), n + 1))
      [.read, .offer, .read, .read, .offer, .takeTurn 0, .receive 0, .complete 0, .send 0,
        .takeTurn 0, .receive 0, .complete 0, .read, .offer, .send 0, .takeTurn 0, .receive 0,
        .read, .offer, .collect, .cancel,
        .abandon 0, .read, .handle, .collect, .handle, .close] =
          some ([("a", ("a", 7)), ("b", ("b", 8))], _) := rfl
  have hrun := run_of_follow? hfollow
  have hreports := (single_worker_keeps_order _ 0 _ false 7 hrun).2.2.2.1
  exact ⟨_, _, _, hrun, by decide, ⟨rfl, rfl, rfl⟩, rfl, hreports⟩

end Pipeline

end MailAudit.Batch
