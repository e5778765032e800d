import MailAudit.Proofs.Batch.Delivery
import MailAudit.Proofs.DomainCheck.Counting

namespace MailAudit.Batch.Pipeline

variable {ε : Type} {s : Services} {p q : Pipeline ε DomainReport World} {m : Move} {ms : List Move}
  {done : List (String × DomainReport)}

theorem domainsChecked_step (hs : s.Leaves (.milestone .domainChecked))
    (h : Step (DomainCheck.verdict s) p m q) :
    q.world.domainsChecked =
      p.world.domainsChecked + (p.completed (DomainCheck.verdict s) m).length := by
  cases h with
  | @complete i w domain hw ha hs' =>
      rw [completed_complete (n := w.sent) (by rw [hw, ← ha])]
      exact DomainCheck.domainsChecked_verdict hs domain p.world
  | _ => rfl

theorem Run.domainsChecked (hs : s.Leaves (.milestone .domainChecked))
    (h : Run (DomainCheck.verdict s) p ms done q) :
    q.world.domainsChecked = p.world.domainsChecked + done.length := by
  induction h with
  | refl => rfl
  | tail _ hstep ih =>
      rw [domainsChecked_step hs (step_of_step? hstep), ih, List.length_append, Nat.add_assoc]

theorem Sound.length_done_add_rowsSkipped_le {records : List (List String)}
    (hs : Sound (records.map (Except.ok (ε := ε))) done p) :
    done.length + p.rowsSkipped ≤ p.rowsRead := by
  have hle := Multiset.card_le_card hs.checked_le
  rw [Multiset.coe_card, Multiset.coe_card, List.length_map] at hle
  have hskipped := hs.reading.skipped
  omega

theorem stopped_run_delivers_each_finished_check_once (hs : s.Leaves (.milestone .domainChecked))
    (column : Nat) {poolSize : Nat} (hpool : 1 ≤ poolSize) (records : List (List String))
    (cancelled : Bool) (world : World)
    (h : Run (DomainCheck.verdict s)
      (start column poolSize cancelled (records.map .ok) world) ms done q) :
    ms.length ≤ 8 * records.length + 2 * poolSize + 3 ∧
    (CanMove (DomainCheck.verdict s) q ↔ ¬ q.Final) ∧
    (∀ e ∈ done, ∃ w, e.2 = (DomainCheck.verdict s e.1 w).1) ∧
    (q.Final →
      (↑q.reports : Multiset DomainReport) = ↑(done.map Prod.snd) ∧
      (↑(done.map Prod.fst) : Multiset String) ≤
        ↑((records.take q.rowsRead).filterMap (domainIn? column)) ∧
      ∃ summary, q.outcome = .ok summary ∧
        summary.domainsChecked = ms.count .handle ∧
        q.world.tally.milestones .domainChecked =
          world.tally.milestones .domainChecked + summary.domainsChecked ∧
        summary.domainsChecked + summary.rowsSkipped ≤ summary.rowsRead ∧
        (summary.cancelled = false →
          (↑(done.map Prod.fst) : Multiset String) = ↑(records.filterMap (domainIn? column)))) := by
  have hsound : Sound (records.map .ok) done q := h.sound (sound_start hpool)
  have hcolumn : q.column = column := h.column_eq
  refine ⟨?_, ⟨fun hmove hfin => not_canMove_of_final hfin hmove, hsound.canMove⟩,
    h.exists_world, ?_⟩
  · have hbound := h.length_add_work_le
    have hcancel := cancelWork_le cancelled
    simp only [work_start, List.length_map] at hbound
    omega
  · intro hfin
    have hchecked := hsound.checked_le
    rw [hcolumn, ← List.map_take, usable_ok] at hchecked
    have hlength : done.length = q.handled.length := hsound.length_done_of_final hfin
    have hhandled : q.handled.length = ms.count .handle := by simpa [start] using h.length_handled
    have hcount : q.world.domainsChecked = world.domainsChecked + done.length := h.domainsChecked hs
    refine ⟨hsound.reports_of_final hfin, hchecked, q.summary, hsound.outcome_eq, ?_, ?_, ?_, ?_⟩
    · exact hhandled
    · rw [summary, ← hlength]
      exact hcount
    · rw [summary, ← hlength]
      exact hsound.length_done_add_rowsSkipped_le
    · intro hgo
      have hrows := (hsound.rows_of_final hfin (hsound.stopped_eq.trans hgo)).1
      rwa [hcolumn] at hrows

theorem stopped_run_delivers_the_check_under_way :
    ∃ (s : Services) (ms : List Move) (done : List (String × DomainReport))
      (q : Pipeline Unit DomainReport World),
      s.Leaves (.milestone .domainChecked) ∧ 1 ≤ 1 ∧
      Run (DomainCheck.verdict s)
        (start 0 1 false ([["a.example"], ["b.example"]].map .ok) {}) ms done
        q ∧
      .cancel ∈ ms ∧ q.Final ∧ q.reports.length = 1 ∧
      (↑q.reports : Multiset DomainReport) = ↑(done.map Prod.snd) := by
  let s : Services :=
    { clock := fun _ => default
      mx := fun _ => (.ok [], [])
      probe := fun domain hostname now => (.observed domain hostname [] now, [])
      delay := fun _ => 0
      policy := fun _ _ => (none, [])
      concurrency := 1 }
  have hs : s.Leaves (.milestone .domainChecked) :=
    ⟨fun _ => List.not_mem_nil, fun _ _ _ => List.not_mem_nil, fun _ _ => List.not_mem_nil⟩
  have hfollow :
      (start 0 1 false ([["a.example"], ["b.example"]].map .ok) {} :
        Pipeline Unit DomainReport World).follow? (DomainCheck.verdict s)
      [.read, .offer, .takeTurn 0, .receive 0, .complete 0, .cancel, .send 0, .collect,
        .handle, .read, .takeTurn 0, .leave 0, .close] = some (_, _) := rfl
  have hrun := run_of_follow? hfollow
  refine ⟨s, _, _, _, hs, le_rfl, hrun, by decide, ⟨rfl, rfl, rfl⟩, rfl, ?_⟩
  exact ((stopped_run_delivers_each_finished_check_once hs 0 le_rfl _ false {} hrun).2.2.2
    ⟨rfl, rfl, rfl⟩).1

end MailAudit.Batch.Pipeline
