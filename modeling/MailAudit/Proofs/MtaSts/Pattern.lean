import MailAudit.MtaSts.Consistency
import MailAudit.Proofs.Text.Blank
import Mathlib.Data.List.Basic

namespace MailAudit

def HostName.labels (name : String) : List (List Char) := (normalize name).toList.splitOn '.'

namespace MtaSts.Pattern

open Text

variable {suffix cs : List Char} {p h : List Char} {ps hs : List (List Char)}

/-- The labels of a host are those of the pattern, but for the first one under a star. -/
structure Fits (pattern host : List (List Char)) : Prop where
  length_eq : host.length = pattern.length
  label_eq : ∀ i p h, pattern[i]? = some p → host[i]? = some h →
    h = p ∨ i = 0 ∧ 2 ≤ pattern.length ∧ p = ['*'] ∧ h ≠ []

theorem fits_refl (ps : List (List Char)) : Fits ps ps where
  length_eq := rfl
  label_eq i p h hp hh := by
    rw [hp] at hh
    cases hh
    exact .inl rfl

theorem fits_iff_eq (hps : ∀ ps', ps = ['*'] :: ps' → ps' = []) : Fits ps hs ↔ hs = ps := by
  constructor
  · intro hfits
    refine List.ext_getElem hfits.length_eq fun i hi hi' => ?_
    rcases hfits.label_eq i _ _ (List.getElem?_eq_getElem hi') (List.getElem?_eq_getElem hi) with
      heq | ⟨rfl, htwo, hstar, -⟩
    · exact heq
    · cases ps with
      | nil => cases hi'
      | cons p ps' =>
        have hp : p = ['*'] := hstar
        rw [hps ps' (congrArg (· :: ps') hp)] at htwo
        exact absurd htwo (Nat.not_succ_le_self 1)
  · rintro rfl
    exact fits_refl hs

theorem fits_star_iff (hps : ps ≠ []) :
    Fits (['*'] :: ps) hs ↔ ∃ label, label ≠ [] ∧ hs = label :: ps := by
  constructor
  · intro hfits
    cases hs with
    | nil => cases hfits.length_eq
    | cons label hs' =>
      have hrest : hs' = ps := by
        refine List.ext_getElem (Nat.succ.inj hfits.length_eq) fun i hi hi' => ?_
        rcases hfits.label_eq (i + 1) _ _ (List.getElem?_eq_getElem (Nat.succ_lt_succ hi'))
          (List.getElem?_eq_getElem (Nat.succ_lt_succ hi)) with heq | ⟨hzero, -⟩
        · exact heq
        · cases hzero
      rcases hfits.label_eq 0 _ _ rfl rfl with rfl | ⟨-, -, -, hlabel⟩
      · exact ⟨['*'], List.cons_ne_nil _ _, hrest ▸ rfl⟩
      · exact ⟨label, hlabel, hrest ▸ rfl⟩
  · rintro ⟨label, hlabel, rfl⟩
    refine ⟨rfl, fun i p h hp hh => ?_⟩
    cases i with
    | zero =>
      cases hp
      cases hh
      exact .inr ⟨rfl, Nat.succ_le_succ (List.length_pos_iff.mpr hps), rfl, hlabel⟩
    | succ i =>
      rw [List.getElem?_cons_succ] at hp hh
      rw [hp] at hh
      cases hh
      exact .inl rfl

theorem splitOn_injective (h : cs.splitOn '.' = suffix.splitOn '.') : cs = suffix := by
  have hjoined : List.intercalate ['.'] (cs.splitOn '.') = cs := List.intercalate_splitOn '.'
  rw [← hjoined, h, List.intercalate_splitOn]

theorem splitOn_star (suffix : List Char) :
    ('*' :: '.' :: suffix).splitOn '.' = ['*'] :: suffix.splitOn '.' :=
  List.splitOn_append_cons_self_of_not_mem (by decide : '.' ∉ ['*']) suffix

theorem hasOneLabelBefore_append_cons {label rest : List Char} (hfree : '.' ∉ label) :
    hasOneLabelBefore suffix (label ++ '.' :: rest) = true ↔ label ≠ [] ∧ rest = suffix := by
  rw [hasOneLabelBefore, splitOnce_append_cons hfree]
  simp only [Bool.and_eq_true, Bool.not_eq_true', List.isEmpty_eq_false_iff, beq_iff_eq, ne_eq]

theorem hasOneLabelBefore_of_notMem (h : '.' ∉ cs) : hasOneLabelBefore suffix cs = false := by
  rw [hasOneLabelBefore, splitOnce_eq_none_iff.mpr h]

theorem hasOneLabelBefore_iff :
    hasOneLabelBefore suffix cs = true ↔ ∃ label, label ≠ [] ∧
    cs.splitOn '.' = label :: suffix.splitOn '.' := by
  by_cases hdot : '.' ∈ cs
  · obtain ⟨label, rest, rfl, hfree⟩ := List.eq_append_cons_of_mem hdot
    rw [hasOneLabelBefore_append_cons hfree, List.splitOn_append_cons_self_of_not_mem hfree]
    constructor
    · rintro ⟨hlabel, rfl⟩
      exact ⟨label, hlabel, rfl⟩
    · rintro ⟨_, hlabel, hsplit⟩
      obtain ⟨rfl, hrest⟩ := List.cons.inj hsplit
      exact ⟨hlabel, splitOn_injective hrest⟩
  · have hsingle : cs.splitOn '.' = [cs] := List.splitOn_eq_singleton hdot
    simp only [hasOneLabelBefore_of_notMem hdot, Bool.false_eq_true, hsingle,
      List.cons.injEq, false_iff]
    rintro ⟨_, -, -, hnil⟩
    exact List.splitOn_ne_nil _ _ hnil.symm

theorem admitsChars_plain (hplain : ∀ suffix, p ≠ '*' :: '.' :: suffix) (hp : p ≠ [])
    (hh : h ≠ []) :
    admitsChars p h = true ↔ p = h := by
  have hsome : (p.isEmpty || h.isEmpty) = false := by
    rw [Bool.or_eq_false_iff, List.isEmpty_eq_false_iff, List.isEmpty_eq_false_iff]
    exact ⟨hp, hh⟩
  rw [admitsChars.eq_def, hsome, if_neg Bool.false_ne_true]
  split
  · exact absurd rfl (hplain _)
  · exact beq_iff_eq

theorem admitsChars_star (hh : h ≠ []) :
    admitsChars ('*' :: '.' :: suffix) h = hasOneLabelBefore suffix h := by
  rw [admitsChars, List.isEmpty_cons, Bool.false_or, List.isEmpty_eq_false_iff.mpr hh,
    if_neg Bool.false_ne_true]

theorem admitsChars_iff :
    admitsChars p h = true ↔ p ≠ [] ∧ h ≠ [] ∧ Fits (p.splitOn '.') (h.splitOn '.') := by
  by_cases hempty : p = [] ∨ h = []
  · have hrefused : admitsChars p h = false := by
      have hisEmpty : (p.isEmpty || h.isEmpty) = true := by
        rwa [Bool.or_eq_true, List.isEmpty_iff, List.isEmpty_iff]
      rw [admitsChars.eq_def, hisEmpty, if_pos rfl]
    rw [hrefused]
    exact ⟨nofun, fun hfits => (hempty.elim hfits.1 hfits.2.1).elim⟩
  · obtain ⟨hp, hh⟩ := not_or.mp hempty
    rw [and_iff_right hp, and_iff_right hh]
    by_cases hstar : ∃ suffix, p = '*' :: '.' :: suffix
    · obtain ⟨suffix, rfl⟩ := hstar
      rw [admitsChars_star hh, hasOneLabelBefore_iff, splitOn_star,
        fits_star_iff (List.splitOn_ne_nil _ _)]
    · have hplain := not_exists.mp hstar
      -- Labels that begin with a star and go on come from a star and a dot only.
      have hlabels : ∀ ps, p.splitOn '.' = ['*'] :: ps → ps = [] := by
        intro ps hsplit
        by_contra hne
        obtain ⟨label, rest, rfl⟩ := List.exists_cons_of_ne_nil hne
        have hjoined : List.intercalate ['.'] (p.splitOn '.') = p := List.intercalate_splitOn '.'
        rw [hsplit] at hjoined
        exact hplain _ hjoined.symm
      rw [admitsChars_plain hplain hp hh, fits_iff_eq hlabels]
      exact ⟨fun heq => heq ▸ rfl, fun heq => (splitOn_injective heq).symm⟩

theorem exists_label_of_hasOneLabelBefore (h : hasOneLabelBefore suffix cs = true) :
    ∃ label, '.' ∉ label ∧ cs = label ++ '.' :: suffix := by
  by_cases hdot : '.' ∈ cs
  · obtain ⟨label, rest, rfl, hfree⟩ := List.eq_append_cons_of_mem hdot
    obtain ⟨-, rfl⟩ := (hasOneLabelBefore_append_cons hfree).mp h
    exact ⟨label, hfree, rfl⟩
  · rw [hasOneLabelBefore_of_notMem hdot] at h
    cases h

theorem label_eq_star {label rest rest' : List Char} (hfree : '.' ∉ label)
    (h : label ++ '.' :: rest = '*' :: '.' :: rest') : label = ['*'] := by
  have hsplit : splitOnce '.' (label ++ '.' :: rest) = some (['*'], rest') := by
    rw [h]
    exact splitOnce_append_cons (by decide : '.' ∉ ['*'])
  rw [splitOnce_append_cons hfree] at hsplit
  exact (Prod.mk.inj (Option.some.inj hsplit)).1

theorem eq_of_admitsChars (hadmits : admitsChars p h = true) (hbegins : p <+: h ∨ h <+: p) :
    p = h := by
  obtain ⟨hp, hh, -⟩ := admitsChars_iff.mp hadmits
  by_cases hstar : ∃ suffix, p = '*' :: '.' :: suffix
  · obtain ⟨suffix, rfl⟩ := hstar
    rw [admitsChars_star hh] at hadmits
    obtain ⟨label, hfree, rfl⟩ := exists_label_of_hasOneLabelBefore hadmits
    have hlabel : label = ['*'] := by
      rcases hbegins with ⟨rest, hrest⟩ | ⟨rest, hrest⟩
      · exact label_eq_star hfree hrest.symm
      · rw [List.append_assoc] at hrest
        exact label_eq_star hfree hrest
    rw [hlabel]
    rfl
  · exact (admitsChars_plain (not_exists.mp hstar) hp hh).mp hadmits

theorem admitsChars_self : admitsChars p p = true ↔ p ≠ [] := by
  rw [admitsChars_iff]
  exact ⟨fun h => h.1, fun hp => ⟨hp, hp, fits_refl _⟩⟩

theorem admits_iff_labels_fit (pattern host : String) :
    admits pattern host = true ↔
      HostName.normalize pattern ≠ "" ∧ HostName.normalize host ≠ "" ∧
        Fits (HostName.labels pattern) (HostName.labels host) := by
  have hempty (name : String) : HostName.normalize name ≠ "" ↔
      HostName.normalizeChars name.toList ≠ [] := by
    rw [HostName.normalize, Ne, String.ofList_eq_empty_iff]
  rw [admits, admitsChars_iff, hempty, hempty, HostName.labels, HostName.labels, HostName.normalize,
    HostName.normalize, String.toList_ofList, String.toList_ofList]

-- The dots at the end are no labels, those before others are, and a star in another place is a
-- plain label.
theorem inner_dots_divide_labels :
    admits "*..a.test.." "MX..a.test" = true ∧
      Fits (HostName.labels "*..a.test..") (HostName.labels "MX..a.test") ∧
      admits "mx.*.test" "mx.a.test" = false ∧
      ¬ Fits (HostName.labels "mx.*.test") (HostName.labels "mx.a.test") := by
  have hadmits : admits "*..a.test.." "MX..a.test" = true := by decide +kernel
  have hrefuses : admits "mx.*.test" "mx.a.test" = false := by decide +kernel
  obtain ⟨-, -, hfits⟩ := (admits_iff_labels_fit _ _).mp hadmits
  refine ⟨hadmits, hfits, hrefuses, fun hfits => ?_⟩
  have hadmits := (admits_iff_labels_fit _ _).mpr ⟨by decide +kernel, by decide +kernel, hfits⟩
  rw [hrefuses] at hadmits
  cases hadmits

end MtaSts.Pattern

end MailAudit
