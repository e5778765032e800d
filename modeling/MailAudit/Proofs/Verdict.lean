import MailAudit.Check

namespace MailAudit

namespace Verdict

variable {a b c v : Verdict} {vs : List Verdict}

theorem le_refl (v : Verdict) : v ≤ v := Nat.le_refl v.rank

theorem le_trans (hab : a ≤ b) (hbc : b ≤ c) : a ≤ c := Nat.le_trans hab hbc

theorem le_antisymm (hab : a ≤ b) (hba : b ≤ a) : a = b := by
  revert hab hba
  cases a <;> cases b <;> decide

theorem le_of_not_le (h : ¬a ≤ b) : b ≤ a := Nat.le_of_not_le h

theorem success_le (v : Verdict) : success ≤ v := Nat.zero_le v.rank

theorem le_failure (v : Verdict) : v ≤ failure := by
  cases v <;> decide

theorem eq_of_forall_le_iff (h : ∀ v, a ≤ v ↔ b ≤ v) : a = b :=
  le_antisymm ((h b).mpr (le_refl b)) ((h a).mp (le_refl a))

theorem worse_le_iff : worse a b ≤ c ↔ a ≤ c ∧ b ≤ c := by
  rw [worse]
  split
  · rename_i hab
    exact ⟨fun hbc => ⟨le_trans hab hbc, hbc⟩, fun h => h.2⟩
  · rename_i hab
    exact ⟨fun hac => ⟨hac, le_trans (le_of_not_le hab) hac⟩, fun h => h.1⟩

theorem worst_le_iff : worst vs ≤ v ↔ ∀ u ∈ vs, u ≤ v := by
  induction vs with
  | nil => exact ⟨fun _ u hu => (List.not_mem_nil hu).elim, fun _ => success_le v⟩
  | cons u rest ih =>
      rw [List.forall_mem_cons, ← ih]
      exact worse_le_iff

theorem le_worst (h : v ∈ vs) : v ≤ worst vs := worst_le_iff.mp (le_refl _) v h

theorem worst_eq_success_iff : worst vs = success ↔ ∀ v ∈ vs, v = success := by
  constructor
  · intro h v hv
    exact le_antisymm (h ▸ le_worst hv) (success_le v)
  · intro h
    exact le_antisymm (worst_le_iff.mpr fun v hv => h v hv ▸ le_refl _) (success_le _)

theorem worst_mem (vs : List Verdict) : worst vs = success ∨ worst vs ∈ vs := by
  induction vs with
  | nil => exact .inl rfl
  | cons v rest ih =>
      have hcons : worst (v :: rest) = worse v (worst rest) := rfl
      rw [hcons, worse]
      split
      · exact ih.imp id (List.mem_cons_of_mem v)
      · exact .inr List.mem_cons_self

end Verdict

end MailAudit
