import MailAudit.Proofs.Batch.Delivery

namespace MailAudit.Batch

def faulty {ε : Type} (records : List (List String)) (e : ε)
    (rest : List (Except ε (List String))) :
    List (Except ε (List String)) :=
  records.map .ok ++ .error e :: rest

section Faulty

variable {ε : Type} {records : List (List String)} {e : ε} {rest : List (Except ε (List String))}

theorem length_faulty : (faulty records e rest).length = records.length + 1 + rest.length := by
  simp only [faulty, List.length_append, List.length_map, List.length_cons]
  omega

theorem suffix_faulty : rest <:+ faulty records e rest :=
  (List.suffix_cons _ _).trans (List.suffix_append _ _)

theorem take_faulty {n : Nat} (h : n ≤ records.length) :
    (faulty records e rest).take n = (records.take n).map .ok := by
  rw [faulty, List.take_append_of_le_length (by rwa [List.length_map]), List.map_take]

theorem drop_faulty {n : Nat} (h : n ≤ records.length) :
    (faulty records e rest).drop n = faulty (records.drop n) e rest := by
  rw [faulty, List.drop_append_of_le_length (by rwa [List.length_map]), ← List.map_drop, faulty]

theorem faulty_eq_ok_cons {fields : List String} {input : List (Except ε (List String))}
    (h : faulty records e rest = .ok fields :: input) :
    ∃ left, records = fields :: left ∧ input = faulty left e rest := by
  cases records with
  | nil => cases h
  | cons first left =>
    cases h
    exact ⟨left, rfl, rfl⟩

theorem faulty_eq_error_cons {e' : ε} {input : List (Except ε (List String))}
    (h : faulty records e rest = .error e' :: input) : records = [] ∧ e' = e ∧ input = rest := by
  cases records with
  | nil =>
    cases h
    exact ⟨rfl, rfl, rfl⟩
  | cons first left => cases h

end Faulty

namespace Pipeline

variable {ε ρ σ : Type} {check : String → σ → ρ × σ} {p q : Pipeline ε ρ σ} {m : Move}
  {ms : List Move} {done : List (String × ρ)} {records : List (List String)} {e : ε}
  {rest : List (Except ε (List String))}

structure Confined (records : List (List String)) (e : ε) (rest : List (Except ε (List String)))
    (p : Pipeline ε ρ σ) : Prop where
  le : p.rowsRead ≤ records.length
  unread : rest <:+ p.input
  failed : ∀ row e', p.producer = .failed row e' → row = records.length + 1 ∧ e' = e

theorem Confined.input_eq (hc : Confined records e rest p) (hr : Reading (faulty records e rest) p)
    (hp : p.producer.isDone = false) : p.input = faulty (records.drop p.rowsRead) e rest :=
  (hr.rest hp).trans (drop_faulty hc.le)

theorem Confined.next (hc : Confined records e rest p) (hr : Reading (faulty records e rest) p)
    (hp : p.producer = .reading) {fields : List String} {input : List (Except ε (List String))}
    (hi : p.input = .ok fields :: input) : p.rowsRead + 1 ≤ records.length ∧ rest <:+ input := by
  have hinput := hc.input_eq hr (by rw [hp]; rfl)
  obtain ⟨left, hleft, hrest⟩ := faulty_eq_ok_cons (hinput.symm.trans hi)
  constructor
  · have hlength := congrArg List.length hleft
    rw [List.length_drop, List.length_cons] at hlength
    omega
  · rw [hrest]
    exact suffix_faulty

theorem Flagged.stopped_of_reading (hf : Flagged p) (hp : p.producer = .reading) :
    p.stopped = p.cancelled := by
  rw [hf, hp]
  exact Bool.or_false _

theorem confined_step (hc : Confined records e rest p) (hr : Reading (faulty records e rest) p)
    (hf : Flagged p) (hgo : p.cancelled = false) (h : Step check p m q) :
    Confined records e rest q := by
  cases h with
  | exhaust hp hi => exact ⟨hc.le, hc.unread, nofun⟩
  | halt hp hi hs =>
    rw [hf.stopped_of_reading hp, hgo] at hs
    cases hs
  | fault hp hi hs =>
    have hinput := hc.input_eq hr (by rw [hp]; rfl)
    obtain ⟨hleft, he, hrest⟩ := faulty_eq_error_cons (hinput.symm.trans hi)
    have hall : records.length ≤ p.rowsRead := List.drop_eq_nil_iff.mp hleft
    refine ⟨hc.le, hrest ▸ List.suffix_rfl, ?_⟩
    rintro row e' ⟨⟩
    exact ⟨congrArg (· + 1) (Nat.le_antisymm hc.le hall), he⟩
  | take hp hi hs hd =>
    obtain ⟨hle, hunread⟩ := hc.next hr hp hi
    exact ⟨hle, hunread, nofun⟩
  | skip hp hi hs hd =>
    obtain ⟨hle, hunread⟩ := hc.next hr hp hi
    exact ⟨hle, hunread, hc.failed⟩
  | offer hp hq hw => exact ⟨hc.le, hc.unread, nofun⟩
  | giveUp hp hw => exact ⟨hc.le, hc.unread, nofun⟩
  | _ => exact ⟨hc.le, hc.unread, hc.failed⟩

theorem Run.confined {p₀ : Pipeline ε ρ σ} (hs : Sound (faulty records e rest) [] p₀)
    (hc : Confined records e rest p₀) (hgo : p₀.cancelled = false) (hms : .cancel ∉ ms)
    (h : Run check p₀ ms done q) : Confined records e rest q := by
  induction h with
  | refl => exact hc
  | tail hrun hstep ih =>
    rw [List.mem_append, not_or] at hms
    have hsound := hrun.sound hs
    exact confined_step (ih hms.1) hsound.reading hsound.flagged
      ((hrun.cancelled_eq hms.1).trans hgo)
      (step_of_step? hstep)

/-- The workers of a run that nobody cancels outlive its producer, which therefore comes to the
fault. -/
theorem Confined.failed_of_final (hc : Confined records e rest p)
    (hs : Sound (faulty records e rest) done p) (hgo : p.cancelled = false) (h : p.Final) :
    p.producer = .failed (records.length + 1) e := by
  have hflag : p.stopped = (p.cancelled || p.producer.hasFailed) := hs.flagged
  have hdone : p.producer.isDone = true := h.2.2
  cases hp : p.producer with
  | failed row e' =>
    obtain ⟨rfl, rfl⟩ := hc.failed row e' hp
    rfl
  | finished =>
    rw [hp, hgo] at hflag
    have hall := hs.ended hp hflag
    rw [length_faulty] at hall
    have hle := hc.le
    omega
  | _ => rw [hp] at hdone; cases hdone

theorem Confined.checked_le (hc : Confined records e rest p)
    (hs : Sound (faulty records e rest) done p) :
    (↑(done.map Prod.fst) : Multiset String) ≤ ↑(records.filterMap (domainIn? p.column)) := by
  have hle := hs.checked_le
  rw [take_faulty hc.le, usable_ok] at hle
  exact hle.trans ((List.take_sublist _ _).filterMap _).subperm

theorem Sound.reports_le {rows : List (Except ε (List String))} (hs : Sound rows done p) :
    (↑p.reports : Multiset ρ) ≤ ↑(done.map Prod.snd) := by
  have hd : (↑(done.map Prod.snd) : Multiset ρ) = p.undelivered + ↑p.handled := hs.delivered
  rw [hd, reports, Multiset.coe_reverse]
  exact Multiset.le_add_left _ _

theorem length_input_add_cancelWork_le (p : Pipeline ε ρ σ) :
    8 * p.input.length + cancelWork p.cancelled ≤ p.work := by
  simp only [work]
  omega

theorem faulty_input_ends_run_at_its_row (check : String → σ → ρ × σ) (column : Nat)
    {poolSize : Nat} (hpool : 1 ≤ poolSize) (records : List (List String)) (e : Csv.Error)
    (rest : List (Except Csv.Error (List String))) (world : σ) {ms : List Move}
    {done : List (String × ρ)} {q : Pipeline Csv.Error ρ σ} (hms : .cancel ∉ ms)
    (h : Run check
      (start column poolSize false (records.map .ok ++ .error e :: rest) world) ms done q) :
    ms.length ≤ 8 * (records.length + 1) + 2 * poolSize + 2 ∧
    (CanMove check q ↔ ¬ q.Final) ∧
    q.cancelled = false ∧
    (∀ c ∈ done, ∃ w, c.2 = (check c.1 w).1) ∧
    (↑(done.map Prod.fst) : Multiset String) ≤ ↑(records.filterMap (domainIn? column)) ∧
    (↑q.reports : Multiset ρ) ≤ ↑(done.map Prod.snd) ∧
    (∀ f : String → ρ, (∀ domain w, (check domain w).1 = f domain) →
      (↑q.reports : Multiset ρ) ≤ ↑((records.filterMap (domainIn? column)).map f)) ∧
    (q.Final →
      q.scanOutcome = .error (.inputRead (records.length + 1) e) ∧
      (↑q.reports : Multiset ρ) = ↑(done.map Prod.snd)) := by
  have hstart : Sound (faulty records e rest) []
      (start column poolSize false (faulty records e rest) world : Pipeline Csv.Error ρ σ) :=
    sound_start hpool
  have hs : Sound (faulty records e rest) done q := h.sound hstart
  have hc : Confined records e rest q :=
    h.confined hstart ⟨Nat.zero_le _, suffix_faulty, nofun⟩ rfl hms
  have hgo : q.cancelled = false := h.cancelled_eq hms
  have hcolumn : q.column = column := h.column_eq
  have hchecked := hc.checked_le hs
  rw [hcolumn] at hchecked
  refine ⟨?_, ⟨fun hmove hfin => not_canMove_of_final hfin hmove, hs.canMove⟩, hgo, h.exists_world,
    hchecked, hs.reports_le, ?_, ?_⟩
  · -- What stands behind the fault is still to be read at the end and counts on both sides.
    have hbound := h.length_add_work_le
    have hleft := length_input_add_cancelWork_le q
    have hunread := hc.unread.length_le
    rw [work_start, ← faulty, length_faulty] at hbound
    rw [hgo] at hleft
    simp only [cancelWork] at hbound hleft
    omega
  · intro f hf
    have hreport : done.map Prod.snd = (done.map Prod.fst).map f := by
      rw [List.map_map]
      refine List.map_congr_left fun c hc => ?_
      obtain ⟨w, hw⟩ := h.exists_world c hc
      exact hw.trans (hf c.1 w)
    calc (↑q.reports : Multiset ρ) ≤ ↑((done.map Prod.fst).map f) := hreport ▸ hs.reports_le
      _ = (↑(done.map Prod.fst) : Multiset String).map f := (Multiset.map_coe f _).symm
      _ ≤ (↑(records.filterMap (domainIn? column)) : Multiset String).map f :=
        Multiset.map_le_map hchecked
      _ = ↑((records.filterMap (domainIn? column)).map f) := Multiset.map_coe f _
  · intro hfin
    refine ⟨?_, hs.reports_of_final hfin⟩
    rw [scanOutcome, outcome, hc.failed_of_final hs hgo hfin]
    rfl

theorem faulty_third_row_ends_run :
    ∃ (ms : List Move) (done : List (String × Nat)) (q : Pipeline Csv.Error Nat Unit),
      1 ≤ 2 ∧ .cancel ∉ ms ∧
      Run (fun domain w => (domain.length, w))
        (start 0 2 false ([["a.example"], ["bb.example"]].map .ok ++
          .error (.input "device error") :: [.ok ["c.example"]]) ()) ms done q ∧
      q.Final ∧ q.reports = [9] ∧ q.cancelled = false ∧
      q.scanOutcome = .error (.inputRead 3 (.input "device error")) ∧
      (↑q.reports : Multiset Nat) ≤
        ↑(([["a.example"], ["bb.example"]].filterMap (domainIn? 0)).map String.length) := by
  -- The fault stops the second worker in its check, and leaves the first one its finished report.
  have hfollow : (start 0 2 false ([["a.example"], ["bb.example"]].map .ok ++
        .error (.input "device error") :: [.ok ["c.example"]]) () :
          Pipeline Csv.Error Nat Unit).follow?
      (fun domain w => (domain.length, w))
      [.read, .offer, .takeTurn 0, .receive 0, .read, .offer, .takeTurn 1, .receive 1,
        .complete 0, .read, .abandon 1, .send 0, .takeTurn 0, .leave 0, .collect, .handle, .close] =
        some ([("a.example", 9)], _) := rfl
  have hrun := run_of_follow? hfollow
  obtain ⟨-, -, hgo, -, -, -, hreports, hfinal⟩ :=
    faulty_input_ends_run_at_its_row _ 0 (by decide) _ _ _ ()
    (by decide) hrun
  exact ⟨_, _, _, by decide, by decide, hrun, ⟨rfl, rfl, rfl⟩, rfl, hgo, (hfinal ⟨rfl, rfl, rfl⟩).1,
    hreports String.length fun _ _ => rfl⟩

end Pipeline

end MailAudit.Batch
