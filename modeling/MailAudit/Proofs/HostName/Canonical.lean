import MailAudit.PolicyList
import MailAudit.Proofs.MtaSts.Pattern
import MailAudit.Proofs.Revalidation.Store

namespace MailAudit.HostName

open MtaSts Revalidation Text

variable {name : String}

theorem isUpper_of_mem_normalizeChars {cs : List Char} :
    ∀ c ∈ normalizeChars cs, c.isUpper = false := by
  intro c hc
  obtain ⟨b, -, rfl⟩ := List.mem_map.mp hc
  exact Char.isUpper_toLower_eq_false b

theorem prefix_normalizeChars_normalizeChars (cs : List Char) :
    normalizeChars (normalizeChars cs) <+: normalizeChars cs := by
  have hbegins : dropEndWhile (· == '.') (trimChars (normalizeChars cs)) <+: normalizeChars cs := by
    rw [trimChars, trimStart_eq_self head_normalizeChars]
    exact (prefix_dropEndWhile _ _).trans (prefix_dropEndWhile _ _)
  have hlower := hbegins.map Char.toLower
  rwa [map_toLower_normalizeChars] at hlower

theorem stored_name_is_found_iff :
    (∀ pairs hosts,
      (Store.ofList (pairs ++ [(name, hosts)])).hostsOf (normalize name) = .ok hosts) ↔
      normalize (normalize name) = normalize name := by
  simp only [Store.hostsOf_eq_ok_iff, Store.ownHosts?_concat]
  constructor
  · intro h
    by_contra hne
    have hown := h [] []
    rw [if_neg hne] at hown
    cases hown
  · intro h pairs hosts
    rw [if_pos h]

theorem contains_ofNames_iff {names : List String} {domain : String} :
    (PolicyList.ofNames names).contains domain = true ↔
    ∃ n ∈ names, normalize n = normalize domain := by
  rw [PolicyList.contains, PolicyList.ofNames, List.contains_iff_mem,
    List.mem_eraseDups, List.mem_map]

theorem listed_name_is_found_iff :
    (∀ before after,
      (PolicyList.ofNames (before ++ name :: after)).contains (normalize name) = true) ↔
      normalize (normalize name) = normalize name := by
  simp only [contains_ofNames_iff]
  constructor
  · intro h
    obtain ⟨n, hn, heq⟩ := h [] []
    rw [List.mem_singleton.mp hn] at heq
    exact heq.symm
  · intro h before after
    exact ⟨name, by simp, h.symm⟩

theorem normalize_normalize_of_admits
    (h : normalizeChars name.toList ≠ [] →
      Pattern.admits (normalize name) name = true ∨ Pattern.admits name (normalize name) = true) :
    normalize (normalize name) = normalize name := by
  rw [normalize_normalize_iff_chars]
  have hbegins := prefix_normalizeChars_normalizeChars name.toList
  by_cases hempty : normalizeChars name.toList = []
  · rw [hempty]
    rfl
  · rw [Pattern.admits, Pattern.admits, toList_normalize] at h
    rcases h hempty with hpattern | hhost
    · exact Pattern.eq_of_admitsChars hpattern (.inl hbegins)
    · exact (Pattern.eq_of_admitsChars hhost (.inr hbegins)).symm

theorem pattern_admits_the_same_iff :
    (∀ host, Pattern.admits (normalize name) host = Pattern.admits name host) ↔
      normalize (normalize name) = normalize name := by
  constructor
  · intro h
    refine normalize_normalize_of_admits fun hne => .inl ?_
    rw [h, Pattern.admits, Pattern.admitsChars_self]
    exact hne
  · intro h host
    rw [Pattern.admits, toList_normalize, normalize_normalize_iff_chars.mp h, Pattern.admits]

theorem host_is_admitted_alike_iff :
    (∀ pattern, Pattern.admits pattern (normalize name) = Pattern.admits pattern name) ↔
      normalize (normalize name) = normalize name := by
  constructor
  · intro h
    refine normalize_normalize_of_admits fun hne => .inr ?_
    rw [h, Pattern.admits, Pattern.admitsChars_self]
    exact hne
  · intro h pattern
    rw [Pattern.admits, toList_normalize, normalize_normalize_iff_chars.mp h, Pattern.admits]

/-- A normalized name begins with no blank, ends in no dot and has no capital. That it does not end
in a blank, that it stays as it is when it is normalized again, and that it goes for the same name
wherever this is done, each of them holds exactly if no blank stood before the dots at the end. -/
theorem normalized_name_is_canonical_iff (name : String) :
    ((∀ c ∈ (normalize name).toList.head?, isBlank c = false) ∧
      (∀ c ∈ (normalize name).toList.getLast?, c ≠ '.') ∧
      ∀ c ∈ (normalize name).toList, c.isUpper = false) ∧
    ((∀ c ∈ (normalize name).toList.getLast?, isBlank c = false) ↔
      ¬ HasBlankBeforeDots name.toList) ∧
    (normalize (normalize name) = normalize name ↔ ¬ HasBlankBeforeDots name.toList) ∧
    ((∀ pairs hosts,
      (Store.ofList (pairs ++ [(name, hosts)])).hostsOf (normalize name) = .ok hosts) ↔
      ¬ HasBlankBeforeDots name.toList) ∧
    ((∀ before after,
      (PolicyList.ofNames (before ++ name :: after)).contains (normalize name) = true) ↔
      ¬ HasBlankBeforeDots name.toList) ∧
    ((∀ host, Pattern.admits (normalize name) host = Pattern.admits name host) ↔
      ¬ HasBlankBeforeDots name.toList) ∧
    ((∀ pattern, Pattern.admits pattern (normalize name) = Pattern.admits pattern name) ↔
      ¬ HasBlankBeforeDots name.toList) := by
  have hagain : normalize (normalize name) = normalize name ↔ ¬ HasBlankBeforeDots name.toList := by
    rw [normalize_normalize_iff, endsInBlank_normalize_iff]
  have hlast : (∀ c ∈ (normalize name).toList.getLast?, isBlank c = false) ↔
      ¬ HasBlankBeforeDots name.toList := by
    rw [← endsInBlank_normalize_iff, EndsInBlank]
    simp
  refine ⟨?_, hlast, hagain, stored_name_is_found_iff.trans hagain,
    listed_name_is_found_iff.trans hagain, pattern_admits_the_same_iff.trans hagain,
    host_is_admitted_alike_iff.trans hagain⟩
  rw [toList_normalize]
  exact ⟨head_normalizeChars, last_normalizeChars, isUpper_of_mem_normalizeChars⟩

theorem blank_before_dot_is_left_behind :
    let name := "mx1.example.com ."
    normalize name = "mx1.example.com " ∧ normalize (normalize name) = "mx1.example.com" ∧
      (Store.ofList [(name, ["mx"])]).hostsOf (normalize name) =
        .error (.unavailable "Unknown domain mx1.example.com ") ∧
      (PolicyList.ofNames [name]).contains (normalize name) = false ∧
      Pattern.admits name name = true ∧ Pattern.admits name (normalize name) = false := by
  decide +kernel

end MailAudit.HostName
