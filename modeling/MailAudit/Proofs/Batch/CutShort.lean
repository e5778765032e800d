import MailAudit.Proofs.Batch.Delivery

/-! What a stop from outside cuts off. A run that has been stopped reads no row and completes no
check, so it falls short of its input exactly if rows were left to read or to check when the stop
came. The flag in the summary says only that a stop came. -/

namespace MailAudit.Batch.Pipeline

variable {ε ρ σ : Type} {check : String → σ → ρ × σ} {p q r : Pipeline ε ρ σ} {m : Move}
  {ms before after : List Move} {done done' : List (String × ρ)} {records : List (List String)}

/-- Some record was left unread, or some domain that was read was not reported on. -/
def CutShort (column : Nat) (records : List (List String)) (s : Summary) : Prop :=
  s.rowsRead < records.length ∨
    s.domainsChecked < ((records.take s.rowsRead).filterMap (domainIn? column)).length

instance (column : Nat) (records : List (List String)) (s : Summary) :
    Decidable (CutShort column records s) :=
  inferInstanceAs (Decidable (_ ∨ _))

/-- Some record is still to be read, or some domain that was read is still to be checked. -/
def HasRowsAhead (records : List (List String)) (p : Pipeline ε ρ σ) : Prop :=
  p.rowsRead < records.length ∨ p.awaiting ≠ 0

theorem stopped_step (hstop : p.stopped = true) (h : Step check p m q) :
    q.stopped = true ∧ q.rowsRead = p.rowsRead ∧ p.completed check m = [] := by
  have absurd_of (hgo : p.stopped = false) : False := by
    rw [hstop] at hgo
    cases hgo
  cases h with
  | fault hp hi hs => exact (absurd_of hs).elim
  | take hp hi hs hd => exact (absurd_of hs).elim
  | skip hp hi hs hd => exact (absurd_of hs).elim
  | receive hw ha hq hs => exact (absurd_of hs).elim
  | complete hw ha hs => exact (absurd_of hs).elim
  | cancel hc => exact ⟨rfl, rfl, rfl⟩
  | _ => exact ⟨hstop, rfl, rfl⟩

theorem Run.of_stopped (hstop : p.stopped = true) (h : Run check p ms done q) :
    q.stopped = true ∧ q.rowsRead = p.rowsRead ∧ done = [] := by
  induction h with
  | refl => exact ⟨hstop, rfl, rfl⟩
  | tail _ hstep ih =>
    obtain ⟨hstopped, hread, rfl⟩ := ih
    obtain ⟨hstopped', hread', hnone⟩ := stopped_step hstopped (step_of_step? hstep)
    exact ⟨hstopped', hread'.trans hread, hnone⟩

theorem cutShort_summary_iff (hs : Sound (records.map .ok) done q) (hfin : q.Final) :
    CutShort q.column records q.summary ↔
      q.rowsRead < records.length ∨
        done.length < ((records.take q.rowsRead).filterMap (domainIn? q.column)).length := by
  rw [hs.length_done_of_final hfin]
  rfl

theorem hasRowsAhead_iff (hs : Sound (records.map .ok) done p) (hgo : p.stopped = false) :
    HasRowsAhead records p ↔
      p.rowsRead < records.length ∨
        done.length < ((records.take p.rowsRead).filterMap (domainIn? p.column)).length := by
  obtain ⟨lost, hc⟩ := hs.conserved
  have hcard := congrArg Multiset.card hc.domains
  rw [hc.kept hgo, ← List.map_take, usable_ok, Multiset.card_add, Multiset.card_add,
    Multiset.card_zero, Multiset.coe_card, Multiset.coe_card, List.length_map,
    Nat.add_zero] at hcard
  refine or_congr_right ?_
  rw [← hcard, Nat.lt_add_left_iff_pos, Multiset.card_pos]

theorem not_cutShort_of_running (hs : Sound (records.map .ok) done p) (hgo : p.stopped = false)
    (hfin : p.Final) : ¬ CutShort p.column records p.summary := by
  obtain ⟨hchecked, hread, -⟩ := hs.rows_of_final hfin hgo
  have hcard := congrArg Multiset.card hchecked
  rw [Multiset.coe_card, Multiset.coe_card, List.length_map] at hcard
  rw [cutShort_summary_iff hs hfin, hread, List.take_length, hcard]
  simp only [Nat.lt_irrefl, or_self, not_false_eq_true]

theorem cancel?_start (column poolSize : Nat) (rows : List (Except ε (List String))) (world : σ) :
    (start column poolSize false rows world : Pipeline ε ρ σ).cancel? =
      some (start column poolSize true rows world) :=
  rfl

theorem eq_of_cancel? (hgo : p.cancelled = false) :
    p.cancel? = some { p with cancelled := true, stopped := true } := by
  rw [cancel?, hgo, if_neg Bool.false_ne_true]

/-- A run that nobody stops is not flagged and does not fall short. One that is stopped in some
state is flagged, and falls short exactly if that state had rows ahead. -/
theorem flagged_run_is_cut_short_iff (check : String → σ → ρ × σ) (column : Nat) {poolSize : Nat}
    (hpool : 1 ≤ poolSize) (records : List (List String)) (world : σ) {p : Pipeline ε ρ σ}
    (hms : .cancel ∉ before)
    (h : Run check (start column poolSize false (records.map .ok) world) before done p) :
    (p.Final → ∃ summary, p.outcome = .ok summary ∧ summary.cancelled = false ∧
      ¬ CutShort column records summary) ∧
    ∃ r, p.step? check .cancel = some r ∧
      ∀ after done' q, Run check r after done' q → q.Final →
        ∃ summary, q.outcome = .ok summary ∧ summary.cancelled = true ∧
          (CutShort column records summary ↔ HasRowsAhead records p) := by
  have hstart : Sound (records.map .ok) [] (start column poolSize false (records.map .ok) world :
      Pipeline ε ρ σ) :=
    sound_start hpool
  have hs : Sound (records.map .ok) done p := h.sound hstart
  have hcolumn : p.column = column := h.column_eq
  have hgo : p.cancelled = false := h.cancelled_eq hms
  have hrunning : p.stopped = false := hs.stopped_eq.trans hgo
  have hcancel : p.step? check .cancel = some { p with cancelled := true, stopped := true } :=
    eq_of_cancel? hgo
  constructor
  · intro hfin
    exact ⟨p.summary, hs.outcome_eq, hgo, hcolumn ▸ not_cutShort_of_running hs hrunning hfin⟩
  · refine ⟨_, hcancel, fun after done' q h' hfin => ?_⟩
    have hq : Sound (records.map .ok) ((done ++ []) ++ done') q :=
      ((h.tail hcancel).trans h').sound hstart
    obtain ⟨hstopped, hread, rfl⟩ := h'.of_stopped rfl
    have hcolumn' : q.column = p.column := h'.column_eq
    rw [List.append_nil, List.append_nil] at hq
    refine ⟨q.summary, hq.outcome_eq, hq.stopped_eq.symm.trans hstopped, ?_⟩
    rw [← hcolumn, ← hcolumn', cutShort_summary_iff hq hfin, hasRowsAhead_iff hs hrunning,
      hread, hcolumn']

theorem stop_with_a_row_in_the_queue_cuts_short :
    ∃ (before after : List Move) (done done' : List (String × Nat))
        (p r q : Pipeline Unit Nat Unit),
      1 ≤ 1 ∧ .cancel ∉ before ∧
      Run (fun domain w => (domain.length, w))
        (start 0 1 false ([["a.example"], ["b.example"]].map .ok) ()) before done p ∧
      p.step? (fun domain w => (domain.length, w)) .cancel = some r ∧
      Run (fun domain w => (domain.length, w)) r after done' q ∧ q.Final ∧
      q.outcome = .ok ⟨2, 0, 1, true⟩ ∧ CutShort 0 [["a.example"], ["b.example"]] ⟨2, 0, 1, true⟩ ∧
      HasRowsAhead [["a.example"], ["b.example"]] p := by
  have hfollow :
    (start 0 1 false ([["a.example"], ["b.example"]].map .ok) () : Pipeline Unit Nat Unit).follow?
      (fun domain w => (domain.length, w))
      [.read, .offer, .takeTurn 0, .receive 0, .read, .offer, .complete 0, .read] =
        some (_, _) := rfl
  have hrun := run_of_follow? hfollow
  obtain ⟨-, r, hr, hstopped⟩ := flagged_run_is_cut_short_iff _ 0 le_rfl _ () (by decide) hrun
  cases hr
  obtain ⟨summary, hok, -, hcut⟩ :=
    hstopped [.send 0, .collect, .takeTurn 0, .leave 0, .handle, .close] _ _ (run_of_follow? rfl)
      ⟨rfl, rfl, rfl⟩
  obtain rfl : ⟨2, 0, 1, true⟩ = summary := Except.ok.inj hok
  have hshort : CutShort 0 [["a.example"], ["b.example"]] ⟨2, 0, 1, true⟩ := by decide
  exact ⟨_, [.send 0, .collect, .takeTurn 0, .leave 0, .handle, .close], _, _, _, _, _, le_rfl,
    by decide, hrun, rfl, run_of_follow? rfl, ⟨rfl, rfl, rfl⟩, hok, hshort, hcut.mp hshort⟩

/-- Two stops that cut nothing off and are flagged all the same: one after the last report has been
handled, and one before a run over no rows. -/
theorem stop_that_cuts_nothing_off_is_flagged :
    ∃ (ms ms' : List Move) (done done' : List (String × Nat)) (q q' : Pipeline Unit Nat Unit),
      Run (fun domain w => (domain.length, w))
        (start 0 1 false ([["a.example"]].map .ok) ()) ms done q ∧
      q.Final ∧ q.reports = [9] ∧ q.outcome = .ok ⟨1, 0, 1, true⟩ ∧
      ¬ CutShort 0 [["a.example"]] ⟨1, 0, 1, true⟩ ∧
      Run (fun domain w => (domain.length, w)) (start 0 1 true [] ()) ms' done' q' ∧
      q'.Final ∧ q'.reports = [] ∧ q'.outcome = .ok ⟨0, 0, 0, true⟩ ∧
      ¬ CutShort 0 [] ⟨0, 0, 0, true⟩ :=
  ⟨[.read, .offer, .takeTurn 0, .receive 0, .complete 0, .send 0, .collect, .handle, .cancel,
      .read, .takeTurn 0, .leave 0, .close],
    [.read, .takeTurn 0, .leave 0, .close], _, _, _, _, run_of_follow? rfl, ⟨rfl, rfl, rfl⟩, rfl,
    rfl, by decide,
    run_of_follow? rfl, ⟨rfl, rfl, rfl⟩, rfl, rfl, by decide⟩

end MailAudit.Batch.Pipeline
