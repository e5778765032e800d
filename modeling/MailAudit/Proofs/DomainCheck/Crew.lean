import MailAudit.Proofs.DomainCheck.Step

namespace MailAudit.DomainCheck

variable {s : Services}

namespace Inquiry

variable {q r : Inquiry} {w v : World} {m : Move}

def work (s : Services) : Inquiry → Nat
  | asked domain expected => 4 * (chosen s (HostName.normalize domain) expected).length + 2
  | scanning _ _ p => p.work + 1
  | answered _ => 0

theorem work_step_lt (h : Step s q w m r v) : r.work s < q.work s := by
  cases h with
  | settle hopened hraised hcache hticks =>
      simp only [work]
      omega
  | embark hsome hchosen =>
      simp only [work, Probing.work, List.map_nil, sumOf]
      omega
  | scan hstep =>
      have hlt := Probing.work_lt_of_step? hstep
      simp only [work]
      omega
  | conclude hdone =>
      simp only [work]
      omega

theorem Run.length_add_work_le {q₀ : Inquiry} {w₀ : World} {ms : List Move}
    (h : Run s q₀ w₀ ms q w) : ms.length + q.work s ≤ q₀.work s := by
  induction h with
  | refl => simp
  | tail _ hstep _ ih =>
      have hlt := work_step_lt (step_of_step? hstep)
      rw [List.length_append, List.length_singleton]
      omega

theorem exists_move (w : World) (h : q.isAnswered = false) :
    ∃ m, (q.step? s w m).isSome = true ∧ (m = .scan .enter → q.Settled) := by
  cases q with
  | asked domain expected => exact ⟨.prepare, rfl, by simp⟩
  | scanning all hosts p =>
      cases hdone : p.isDone with
      | true => exact ⟨.conclude, by simp [step?, hdone], by simp⟩
      | false =>
          obtain ⟨m, -, hm, hsettled⟩ := Probing.exists_move_of_not_isDone (s := s) (w := w) hdone
          refine ⟨.scan m, by simp [step?, hm], ?_⟩
          rintro ⟨⟩
          exact hsettled rfl
  | answered result => cases h

end Inquiry

namespace Crew

inductive Run (s : Services) (c₀ : Crew) : List (Nat × Inquiry.Move) → Crew → Prop
  | refl : Run s c₀ [] c₀
  | tail {ms c i m c'} : Run s c₀ ms c → c.step? s i m = some c' → Run s c₀ (ms ++ [(i, m)]) c'

variable {c c' : Crew} {i : Nat} {m : Inquiry.Move} {ms : List (Nat × Inquiry.Move)}

theorem exists_of_step? (h : c.step? s i m = some c') :
    ∃ q r v, c.inquiries[i]? = some q ∧ q.step? s c.world m = some (r, v) ∧
      c' = ⟨c.inquiries.set i r, v⟩ := by
  simp only [step?] at h
  split at h
  · cases h
  · rename_i q hq
    obtain ⟨⟨r, v⟩, hstep, heq⟩ := Option.map_eq_some_iff.mp h
    exact ⟨q, r, v, hq, hstep, heq.symm⟩

def work (s : Services) (c : Crew) : Nat := sumOf (c.inquiries.map (Inquiry.work s))

theorem work_step?_lt (h : c.step? s i m = some c') : c'.work s < c.work s := by
  obtain ⟨q, r, v, hq, hstep, rfl⟩ := exists_of_step? h
  have hlt := Inquiry.work_step_lt (Inquiry.step_of_step? hstep)
  have hsum := sumOf_set (Inquiry.work s) hq r
  simp only [work]
  omega

theorem Run.length_add_work_le {c₀ : Crew} (h : Run s c₀ ms c) :
    ms.length + c.work s ≤ c₀.work s := by
  induction h with
  | refl => simp
  | tail _ hstep ih =>
      have hlt := work_step?_lt hstep
      rw [List.length_append, List.length_singleton]
      omega

theorem Run.head {c₀ : Crew} (hstep : c₀.step? s i m = some c') (h : Run s c' ms c) :
    Run s c₀ ((i, m) :: ms) c := by
  induction h with
  | refl => exact @Run.tail s c₀ [] _ _ _ _ .refl hstep
  | tail _ hlast ih => exact ih.tail hlast

def follow? (s : Services) (c : Crew) : List (Nat × Inquiry.Move) → Option Crew
  | [] => some c
  | (i, m) :: ms =>
      match c.step? s i m with
      | none => none
      | some c' => c'.follow? s ms

theorem run_of_follow? (h : c.follow? s ms = some c') : Run s c ms c' := by
  induction ms generalizing c with
  | nil =>
      cases h
      exact .refl
  | cons e ms ih =>
      obtain ⟨i, m⟩ := e
      simp only [follow?] at h
      split at h
      · cases h
      · rename_i next hstep
        exact Run.head hstep (ih h)

def Idle (s : Services) (c : Crew) : Prop := ∀ i m, c.step? s i m = none

theorem idle_iff : c.Idle s ↔ ∀ q ∈ c.inquiries, q.isAnswered = true := by
  constructor
  · intro hidle q hq
    by_contra hopen
    obtain ⟨i, hi⟩ := List.mem_iff_getElem?.mp hq
    obtain ⟨m, hm, -⟩ := Inquiry.exists_move (s := s) c.world (Bool.eq_false_iff.mpr hopen)
    have hnone := hidle i m
    simp only [step?, hi, Option.map_eq_none_iff] at hnone
    rw [hnone] at hm
    cases hm
  · intro hall i m
    by_contra hsome
    obtain ⟨c', hstep⟩ := Option.ne_none_iff_exists'.mp hsome
    obtain ⟨q, r, v, hq, hstep, -⟩ := exists_of_step? hstep
    have hanswered := hall q (List.mem_of_getElem? hq)
    cases q with
    | answered result => cases hstep
    | _ => cases hanswered

end Crew

end MailAudit.DomainCheck
