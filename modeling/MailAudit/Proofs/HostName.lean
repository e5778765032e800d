import MailAudit.Network
import MailAudit.Proofs.Text.Blank
import Mathlib

namespace MailAudit

namespace Text

theorem toNat_toLower_of_isUpper {c : Char} (h : c.isUpper) :
    65 ≤ c.toNat ∧ c.toNat ≤ 90 ∧ c.toLower.toNat = c.toNat + 32 := by
  have hlower := Char.toLower_eq_of_isUpper h
  simp only [Char.isUpper, ge_iff_le, UInt32.le_iff_toNat_le, decide_eq_true_eq] at h
  have hle : 65 ≤ c.toNat := h.1
  have hge : c.toNat ≤ 90 := h.2
  have hvalid : (c.toNat + 32).isValidChar := by
    left
    omega
  rw [hlower, Char.toNat_ofNat, if_pos hvalid]
  exact ⟨hle, hge, rfl⟩

theorem isBlank_toLower (c : Char) : isBlank c.toLower = isBlank c := by
  have hletter {b : Char} (h₁ : 65 ≤ b.toNat) (h₂ : b.toNat ≤ 122) : isBlank b = false := by
    simp only [isBlank, Bool.or_eq_false_iff, Bool.and_eq_false_iff, decide_eq_false_iff_not,
      beq_eq_false_iff_ne]
    omega
  by_cases h : c.isUpper
  · obtain ⟨hle, hge, hlower⟩ := toNat_toLower_of_isUpper h
    rw [hletter hle (by omega), hletter (by omega) (by omega)]
  · rw [Char.toLower_eq_of_not_isUpper h]

theorem isBlank_dot : isBlank '.' = false := by decide

theorem toLower_eq_dot_iff {c : Char} : c.toLower = '.' ↔ c = '.' := by
  by_cases h : c.isUpper
  · obtain ⟨hle, -, hlower⟩ := toNat_toLower_of_isUpper h
    constructor
    · intro heq
      rw [heq] at hlower
      have hdot : ('.').toNat = 46 := rfl
      omega
    · rintro rfl
      cases h
  · rw [Char.toLower_eq_of_not_isUpper h]

end Text

namespace HostName

open Text

variable {cs : List Char} {name : String}

theorem head_normalizeChars : ∀ c ∈ (normalizeChars cs).head?, isBlank c = false := by
  intro c hc
  rw [normalizeChars, List.head?_map] at hc
  obtain ⟨b, hb, rfl⟩ := Option.map_eq_some_iff.mp hc
  have hbegins : dropEndWhile (· == '.') (trimChars cs) <+: trimStart cs :=
    (prefix_dropEndWhile _ _).trans (prefix_dropEndWhile _ _)
  rw [isBlank_toLower]
  exact head_of_prefix hbegins head_trimStart b hb

theorem last_normalizeChars : ∀ c ∈ (normalizeChars cs).getLast?, c ≠ '.' := by
  intro c hc
  rw [normalizeChars, List.getLast?_map] at hc
  obtain ⟨b, hb, rfl⟩ := Option.map_eq_some_iff.mp hc
  rw [Ne, toLower_eq_dot_iff]
  exact beq_eq_false_iff_ne.mp (last_dropEndWhile b hb)

theorem map_toLower_normalizeChars : (normalizeChars cs).map Char.toLower = normalizeChars cs := by
  rw [normalizeChars, List.map_map]
  refine List.map_congr_left fun c _ => ?_
  rw [Function.comp_apply, Char.toLower_toLower_eq_toLower]

theorem length_normalizeChars_le (cs : List Char) :
    (normalizeChars cs).length ≤ (trimEnd (trimStart cs)).length := by
  rw [normalizeChars, List.length_map]
  exact (prefix_dropEndWhile _ _).length_le

theorem normalizeChars_normalizeChars_iff :
    normalizeChars (normalizeChars cs) = normalizeChars cs ↔
      ∀ c ∈ (normalizeChars cs).getLast?, isBlank c = false := by
  have hstart : trimStart (normalizeChars cs) = normalizeChars cs :=
    trimStart_eq_self head_normalizeChars
  constructor
  · intro heq
    have hlength := length_normalizeChars_le (normalizeChars cs)
    rw [heq, hstart] at hlength
    have hend : trimEnd (normalizeChars cs) = normalizeChars cs :=
      (prefix_dropEndWhile _ _).eq_of_length_le hlength
    exact dropEndWhile_eq_self_iff.mp hend
  · intro hlast
    have hend : trimEnd (normalizeChars cs) = normalizeChars cs :=
      dropEndWhile_eq_self_iff.mpr hlast
    have hdots : dropEndWhile (· == '.') (normalizeChars cs) = normalizeChars cs :=
      dropEndWhile_eq_self_iff.mpr fun c hc => beq_false_of_ne (last_normalizeChars c hc)
    have hagain : normalizeChars (normalizeChars cs) = (normalizeChars cs).map Char.toLower := by
      conv_lhs => rw [normalizeChars, trimChars, hstart, hend, hdots]
    rw [hagain, map_toLower_normalizeChars]

def EndsInBlank (name : String) : Prop := ∃ c ∈ name.toList.getLast?, isBlank c = true

theorem toList_normalize (name : String) : (normalize name).toList = normalizeChars name.toList :=
  String.toList_ofList

theorem normalize_normalize_iff_chars :
    normalize (normalize name) = normalize name ↔
      normalizeChars (normalizeChars name.toList) = normalizeChars name.toList := by
  rw [normalize, toList_normalize, normalize, String.ofList_inj]

theorem normalize_normalize_iff :
    normalize (normalize name) = normalize name ↔ ¬ EndsInBlank (normalize name) := by
  rw [normalize_normalize_iff_chars, normalizeChars_normalizeChars_iff, EndsInBlank,
    toList_normalize]
  simp

/-- A blank stands between a name and the dots at its end. -/
def HasBlankBeforeDots (cs : List Char) : Prop :=
  ∃ before b dots after, cs = before ++ b :: dots ++ after ∧ ¬ Blank before ∧
    isBlank b = true ∧ dots ≠ [] ∧
    (∀ c ∈ dots, c = '.') ∧ Blank after

theorem trimChars_blank_dots {before dots after : List Char} {b : Char} (hbefore : ¬ Blank before)
    (hne : dots ≠ []) (hdots : ∀ c ∈ dots, c = '.') (hafter : Blank after) :
    trimChars (before ++ b :: dots ++ after) = trimStart before ++ b :: dots := by
  rw [trimChars_append_blank hafter, trimChars, trimStart_append_of_not_blank hbefore]
  refine dropEndWhile_eq_self_iff.mpr fun c hc => ?_
  have hlast : dots.getLast? = some c := by
    rw [List.getLast?_append_cons, List.getLast?_cons, List.getLast?_eq_some_getLast hne] at hc
    rw [List.getLast?_eq_some_getLast hne]
    exact hc
  rw [hdots c (List.mem_of_getLast? hlast)]
  exact isBlank_dot

theorem normalizeChars_blank_dots {before dots after : List Char} {b : Char}
    (hbefore : ¬ Blank before) (hb : isBlank b = true) (hne : dots ≠ [])
    (hdots : ∀ c ∈ dots, c = '.') (hafter : Blank after) :
    normalizeChars (before ++ b :: dots ++ after) = (trimStart before ++ [b]).map Char.toLower := by
  have hkept : dropEndWhile (· == '.') (trimStart before ++ [b]) = trimStart before ++ [b] := by
    refine dropEndWhile_eq_self_iff.mpr fun c hc => ?_
    rw [List.getLast?_concat] at hc
    cases hc
    refine beq_false_of_ne fun heq => ?_
    rw [heq, isBlank_dot] at hb
    cases hb
  rw [normalizeChars, trimChars_blank_dots hbefore hne hdots hafter, List.append_cons,
    dropEndWhile_append_of_pos fun c hc => beq_iff_eq.mpr (hdots c hc), hkept]

theorem hasBlankBeforeDots_of_getLast? {b : Char} (hlast : (normalizeChars cs).getLast? = some b)
    (hb : isBlank b = true) : HasBlankBeforeDots cs := by
  rw [normalizeChars, List.getLast?_map] at hlast
  obtain ⟨c, hc, rfl⟩ := Option.map_eq_some_iff.mp hlast
  rw [isBlank_toLower] at hb
  obtain ⟨before, hbefore⟩ := List.getLast?_eq_some_iff.mp hc
  obtain ⟨dots, htrim, hdots⟩ := exists_eq_dropEndWhile_append (· == '.') (trimChars cs)
  rw [hbefore, List.append_assoc, List.singleton_append] at htrim
  obtain ⟨lead, after, hcs, -, hafter⟩ := exists_eq_append_trimChars cs
  refine ⟨lead ++ before, c, dots, after, ?_, ?_, hb, ?_,
    fun d hd => beq_iff_eq.mp (hdots d hd), hafter⟩
  · conv_lhs => rw [hcs, htrim]
    simp only [List.append_assoc]
  · -- A trimmed text does not begin with a blank.
    intro hblank
    have hhead : ∀ d ∈ (trimChars cs).head?, isBlank d = false := head_trimChars
    rw [htrim] at hhead
    cases before with
    | nil => simp [hb] at hhead
    | cons d before =>
      have hd : isBlank d = true := hblank d (by simp)
      simp [hd] at hhead
  · -- Nor does it end with one.
    rintro rfl
    have hend : ∀ d ∈ (trimChars cs).getLast?, isBlank d = false := last_dropEndWhile
    rw [htrim] at hend
    simp [hb] at hend

theorem endsInBlank_normalize_iff :
    EndsInBlank (normalize name) ↔ HasBlankBeforeDots name.toList := by
  rw [EndsInBlank, toList_normalize]
  constructor
  · rintro ⟨b, hlast, hb⟩
    exact hasBlankBeforeDots_of_getLast? hlast hb
  · rintro ⟨before, b, dots, after, hname, hbefore, hb, hne, hdots, hafter⟩
    refine ⟨b.toLower, ?_, (isBlank_toLower b).trans hb⟩
    rw [hname, normalizeChars_blank_dots hbefore hb hne hdots hafter, List.map_append,
      List.map_singleton, List.getLast?_concat]
    rfl

end HostName

end MailAudit
