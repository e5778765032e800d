import MailAudit.Text.Decimal
import MailAudit.Proofs.Text.Blank
import Mathlib.Data.List.Induction

namespace MailAudit.Text

theorem toNat_bounds_of_isDigit {c : Char} (h : Decimal.isDigit c = true) :
    48 ≤ c.toNat ∧ c.toNat ≤ 57 := by
  simpa [Decimal.isDigit, Char.le_def, UInt32.le_iff_toNat_le] using h

theorem isBlank_of_isDigit {c : Char} (h : Decimal.isDigit c = true) : isBlank c = false := by
  have hbounds := toNat_bounds_of_isDigit h
  simp only [isBlank, Bool.or_eq_false_iff, Bool.and_eq_false_iff, decide_eq_false_iff_not,
    beq_eq_false_iff_ne]
  omega

namespace Decimal

theorem isDigit_of_mem_digits {n : Nat} {c : Char} (h : c ∈ digits n) : isDigit c = true := by
  have hdigit : c.isDigit = true := Nat.isDigit_of_mem_toDigits (by decide) (by decide) h
  simpa [Char.isDigit, isDigit, Char.le_def] using hdigit

theorem value_digits (n : Nat) : value (digits n) = n :=
  Nat.ofDigitChars_ten_toDigits

theorem isDigit_of_mem_padded {width n : Nat} {c : Char} (h : c ∈ padded width n) :
    isDigit c = true := by
  rcases List.mem_append.mp h with h | h
  · rw [List.eq_of_mem_replicate h]
    rfl
  · exact isDigit_of_mem_digits h

theorem padded_ne_nil (width n : Nat) : padded width n ≠ [] :=
  List.append_ne_nil_of_right_ne_nil _ Nat.toDigits_ne_nil

theorem exists_padded_eq_cons (width n : Nat) :
    ∃ c cs, padded width n = c :: cs ∧ isDigit c = true := by
  obtain ⟨c, cs, hcons⟩ := List.exists_cons_of_ne_nil (padded_ne_nil width n)
  exact ⟨c, cs, hcons, isDigit_of_mem_padded (hcons ▸ List.mem_cons_self)⟩

theorem length_padded {width n : Nat} (hwidth : 0 < width) (h : n < Nat.pow 10 width) :
    (padded width n).length = width := by
  have hfits : (digits n).length ≤ width :=
    (Nat.length_toDigits_le_iff (by decide) hwidth).mpr h
  simp only [padded, List.length_append, List.length_replicate]
  omega

theorem value_padded (width n : Nat) : value (padded width n) = n := by
  have hzeros (k : Nat) (ds : List Char) : value (List.replicate k '0' ++ ds) = value ds := by
    induction k with
    | zero => rfl
    | succ k ih => exact ih
  rw [padded, hzeros, value_digits]

theorem readDigits?_padded (width n : Nat) : readDigits? (padded width n) = some n := by
  have hall : (padded width n).all isDigit = true :=
    List.all_eq_true.mpr fun _ => isDigit_of_mem_padded
  simp [readDigits?, padded_ne_nil, hall, value_padded]

theorem readDigits?_digits (n : Nat) : readDigits? (digits n) = some n := by
  simpa [padded] using readDigits?_padded 0 n

theorem value_concat (cs : List Char) (c : Char) :
    value (cs ++ [c]) = 10 * value cs + digitValue c := by
  rw [value, List.foldl_append, List.foldl_cons, List.foldl_nil, ← value]

theorem digitValue_lt {c : Char} (h : isDigit c = true) : digitValue c < 10 := by
  obtain ⟨hle, hge⟩ := toNat_bounds_of_isDigit h
  have hzero : ('0').toNat = 48 := rfl
  rw [digitValue]
  omega

theorem digits_digitValue {c : Char} (h : isDigit c = true) : digits (digitValue c) = [c] := by
  obtain ⟨hle, hge⟩ := toNat_bounds_of_isDigit h
  have hzero : ('0').toNat = 48 := rfl
  rw [digits, Nat.toDigits_of_lt_base (digitValue_lt h), List.singleton_inj, ← Char.toNat_inj,
    Nat.toNat_digitChar_of_lt_ten (digitValue_lt h), digitValue]
  omega

theorem exists_zeros_append_digits {cs : List Char} (hne : cs ≠ [])
    (h : ∀ c ∈ cs, isDigit c = true) :
    ∃ zeros, cs = List.replicate zeros '0' ++ digits (value cs) := by
  induction cs using List.reverseRecOn with
  | nil => exact absurd rfl hne
  | append_singleton cs c ih =>
    have hc : isDigit c = true := h c (List.mem_append_right _ List.mem_cons_self)
    rw [value_concat]
    by_cases hcs : cs = []
    · subst hcs
      exact ⟨0, by simpa [value] using (digits_digitValue hc).symm⟩
    · obtain ⟨zeros, hzeros⟩ := ih hcs fun d hd => h d (List.mem_append_left _ hd)
      by_cases hv : value cs = 0
      · refine ⟨zeros + 1, ?_⟩
        rw [hv] at hzeros ⊢
        rw [hzeros, Nat.mul_zero, Nat.zero_add, digits_digitValue hc, List.replicate_succ']
        rfl
      · refine ⟨zeros, ?_⟩
        have hdigits :
            digits (value cs) ++ digits (digitValue c) = digits (10 * value cs + digitValue c) :=
          Nat.toDigits_append_toDigits (by decide) (Nat.pos_of_ne_zero hv) (digitValue_lt hc)
        rw [← hdigits, digits_digitValue hc, ← List.append_assoc, ← hzeros]

theorem readDigits?_eq_some_iff {cs : List Char} {n : Nat} :
    readDigits? cs = some n ↔ ∃ zeros, cs = List.replicate zeros '0' ++ digits n := by
  constructor
  · intro h
    rw [readDigits?] at h
    split at h
    · cases h
    · rename_i hform
      cases h
      rw [Bool.or_eq_true, not_or, List.isEmpty_iff, Bool.not_eq_true', Bool.not_eq_false,
        List.all_eq_true] at hform
      exact exists_zeros_append_digits hform.1 hform.2
  · rintro ⟨zeros, rfl⟩
    have hwidth : List.replicate zeros '0' ++ digits n = padded (zeros + (digits n).length) n := by
      rw [padded, Nat.add_sub_cancel]
    rw [hwidth, readDigits?_padded]

def Spells (cs : List Char) (n : Nat) : Prop :=
  ∃ sign zeros, (sign = [] ∨ sign = ['+']) ∧ cs = sign ++ (List.replicate zeros '0' ++ digits n)

theorem plus_notMem_zeros_append_digits (zeros n : Nat) :
    '+' ∉ List.replicate zeros '0' ++ digits n := by
  intro h
  rcases List.mem_append.mp h with h | h
  · cases List.eq_of_mem_replicate h
  · cases isDigit_of_mem_digits h

theorem read?_eq_some_iff {limit n : Nat} {cs : List Char} :
    read? limit cs = some n ↔ Spells cs n ∧ n ≤ limit := by
  simp only [read?, Option.filter_eq_some_iff, decide_eq_true_eq]
  refine and_congr_left fun _ => ?_
  split
  · rename_i rest
    rw [readDigits?_eq_some_iff]
    constructor
    · rintro ⟨zeros, rfl⟩
      exact ⟨['+'], zeros, .inr rfl, rfl⟩
    · rintro ⟨sign, zeros, rfl | rfl, heq⟩
      · have hplus : '+' ∈ List.replicate zeros '0' ++ digits n := by
          rw [← List.nil_append (_ ++ _), ← heq]
          exact List.mem_cons_self
        exact absurd hplus (plus_notMem_zeros_append_digits zeros n)
      · exact ⟨zeros, List.cons.inj heq |>.2⟩
  · rename_i hplus
    rw [readDigits?_eq_some_iff]
    constructor
    · rintro ⟨zeros, rfl⟩
      exact ⟨[], zeros, .inl rfl, rfl⟩
    · rintro ⟨sign, zeros, rfl | rfl, rfl⟩
      · exact ⟨zeros, rfl⟩
      · exact absurd rfl (hplus _)

end Decimal

end MailAudit.Text
