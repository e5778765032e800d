import MailAudit.MtaSts.Record
import MailAudit.Proofs.Text.Blank
import Mathlib.Data.List.Perm.Basic

namespace MailAudit.MtaSts.Record

open Text

variable {c : Char} {cs id id' record after ending : List Char} {records records' : List String}

def Announces (record : String) : Prop := "v=STSv1".toList <+: trimChars record.toList

instance : DecidablePred Announces := fun record =>
  inferInstanceAs (Decidable ("v=STSv1".toList <+: trimChars record.toList))

inductive Ending : List Char → Prop
  | nothing : Ending []
  | more {text : List Char} (hline : '\n' ∉ text) : Ending (';' :: text)

structure Bears (record id : List Char) : Prop where
  spelt : ∃ before after ending,
    record = "v=STSv1;".toList ++ (before ++ ("id=".toList ++ (id ++ (after ++ ending)))) ∧
      Blank before ∧ Blank after ∧ Ending ending
  letters : ∀ c ∈ id, c.isAlphanum = true
  length_pos : 1 ≤ id.length
  length_le : id.length ≤ 32

theorem isIdChar_eq_isAlphanum (c : Char) : isIdChar c = c.isAlphanum := by
  have hdigit : Decimal.isDigit c = c.isDigit := rfl
  have hlower : (decide ('a' ≤ c) && decide (c ≤ 'z')) = c.isLower := rfl
  have hupper : (decide ('A' ≤ c) && decide (c ≤ 'Z')) = c.isUpper := (Bool.decide_and _ _).symm
  have halphanum : c.isAlphanum = (c.isUpper || c.isLower || c.isDigit) := rfl
  rw [isIdChar, hdigit, hlower, hupper, halphanum, Bool.or_comm, Bool.or_comm c.isDigit,
    Bool.or_assoc]

theorem isIdChar_of_isBlank (h : isBlank c = true) : isIdChar c = false := by
  rw [Bool.eq_false_iff]
  intro hid
  simp only [isIdChar, Decimal.isDigit, Char.le_def, UInt32.le_iff_toNat_le, Bool.or_eq_true,
    Bool.and_eq_true, decide_eq_true_eq] at hid
  change ((48 ≤ c.toNat ∧ c.toNat ≤ 57) ∨ 97 ≤ c.toNat ∧ c.toNat ≤ 122) ∨ 65 ≤ c.toNat ∧
    c.toNat ≤ 90 at hid
  simp only [isBlank, Bool.or_eq_true, Bool.and_eq_true, decide_eq_true_eq, beq_iff_eq] at h
  omega

theorem isEnding_iff : isEnding cs = true ↔ Ending cs := by
  constructor
  · intro h
    cases cs with
    | nil => exact .nothing
    | cons c cs =>
      simp only [isEnding, Bool.and_eq_true, decide_eq_true_eq, Bool.not_eq_true',
        List.contains_eq_mem, decide_eq_false_iff_not] at h
      obtain ⟨rfl, hline⟩ := h
      exact .more hline
  · intro h
    cases h with
    | nothing => rfl
    | more hline => simpa [isEnding] using hline

theorem Ending.head_eq (h : Ending ending) : ∀ c ∈ ending.head?, c = ';' := by
  cases h with
  | nothing => exact nofun
  | more => exact fun c hc => (Option.some.inj hc).symm

theorem Ending.trimStart_append (h : Ending ending) (hafter : Blank after) :
    trimStart (after ++ ending) = ending := by
  rw [trimStart_append_blank hafter]
  exact trimStart_eq_self fun c hc => h.head_eq c hc ▸ rfl

theorem Ending.head_append (h : Ending ending) (hafter : Blank after) :
    ∀ c ∈ (after ++ ending).head?, isIdChar c = false := by
  intro c hc
  cases after with
  | nil => exact h.head_eq c hc ▸ rfl
  | cons b after =>
    cases hc
    exact isIdChar_of_isBlank (hafter c List.mem_cons_self)

theorem bears_of_id? (h : id? record = some id) : Bears record id := by
  simp only [id?, Option.bind_eq_bind, Option.bind_eq_some_iff,
    List.isPrefixOf?_eq_some_iff_append_eq] at h
  obtain ⟨rest, rfl, rest', htag, h⟩ := h
  split at h
  · rename_i hform
    cases h
    simp only [Bool.and_eq_true, decide_eq_true_eq] at hform
    obtain ⟨⟨hpos, hle⟩, hending⟩ := hform
    refine ⟨⟨rest.takeWhile isBlank, (rest'.dropWhile isIdChar).takeWhile isBlank,
      trimStart (rest'.dropWhile isIdChar), ?_, ?_, ?_, isEnding_iff.mp hending⟩, ?_, hpos, hle⟩
    · rw [trimStart, List.takeWhile_append_dropWhile, List.takeWhile_append_dropWhile,
        htag, trimStart, List.takeWhile_append_dropWhile]
    · exact fun c hc => List.mem_takeWhile_imp hc
    · exact fun c hc => List.mem_takeWhile_imp hc
    · intro c hc
      rw [← isIdChar_eq_isAlphanum]
      exact List.mem_takeWhile_imp hc
  · cases h

theorem id?_of_bears (h : Bears record id) : id? record = some id := by
  obtain ⟨⟨before, after, ending, rfl, hbefore, hafter, hending⟩, hletters, hpos, hle⟩ := h
  have htag : trimStart (before ++ ("id=".toList ++ (id ++ (after ++ ending)))) =
      "id=".toList ++ (id ++ (after ++ ending)) := by
    rw [trimStart_append_blank hbefore]
    exact trimStart_cons (by decide) _
  have hletters' : ∀ c ∈ id, isIdChar c = true :=
    fun c hc => isIdChar_eq_isAlphanum c ▸ hletters c hc
  have htake := takeWhile_run hletters' (hending.head_append hafter)
  have hdrop := dropWhile_run hletters' (hending.head_append hafter)
  simp only [id?, Option.bind_eq_bind, Option.bind_eq_some_iff,
    List.isPrefixOf?_eq_some_iff_append_eq]
  refine ⟨_, rfl, _, htag.symm, ?_⟩
  rw [htake, hdrop, hending.trimStart_append hafter, isEnding_iff.mpr hending,
    if_pos (by simp [hpos, hle])]

theorem Bears.unique (h : Bears record id) (h' : Bears record id') : id = id' :=
  Option.some.inj ((id?_of_bears h).symm.trans (id?_of_bears h'))

theorem candidates_eq (records : List String) :
    candidates records = (records.filter fun record => Announces record).map fun record =>
      trimChars record.toList := by
  rw [candidates, List.filter_map]
  refine congrArg _ (List.filter_congr fun record _ => ?_)
  rw [Bool.eq_iff_iff, Function.comp_apply, List.isPrefixOf_iff_prefix,
    decide_eq_true_eq, Announces]

theorem candidates_eq_singleton_iff :
    candidates records = [record] ↔ ∃ pre r post, records = pre ++ r :: post ∧ Announces r ∧
      (∀ other ∈ pre ++ post, ¬ Announces other) ∧ trimChars r.toList = record := by
  simp only [candidates_eq, List.map_eq_singleton_iff, List.filter_eq_cons_iff,
    List.filter_eq_nil_iff, decide_eq_true_eq, List.forall_mem_append]
  constructor
  · rintro ⟨r, ⟨pre, post, hrecords, hpre, hr, hpost⟩, htrim⟩
    exact ⟨pre, r, post, hrecords, hr, ⟨hpre, hpost⟩, htrim⟩
  · rintro ⟨pre, r, post, hrecords, hr, ⟨hpre, hpost⟩, htrim⟩
    exact ⟨r, ⟨pre, post, hrecords, hpre, hr, hpost⟩, htrim⟩

theorem find_of_singleton (h : candidates records = [record]) :
    find records = ((id? record).map (.ok ∘ String.ofList)).getD
      (.error (.malformed (String.ofList record))) := by
  simp only [find, h]
  cases id? record <;> rfl

theorem find_of_several (h : 2 ≤ (candidates records).length) :
    find records = .error (.several (candidates records).length) := by
  rw [find]
  split
  · rename_i hnil
    rw [hnil] at h
    cases h
  · rename_i hone
    rw [hone] at h
    exact absurd h (Nat.not_succ_le_self 1)
  · rfl

theorem find_eq_ok_iff {id : String} :
    find records = .ok id ↔ ∃ record, candidates records = [record] ∧ Bears record id.toList := by
  constructor
  · intro h
    rcases hc : candidates records with _ | ⟨record, _ | ⟨other, rest⟩⟩
    · simp only [find, hc] at h
      cases h
    · refine ⟨record, rfl, bears_of_id? ?_⟩
      rw [find_of_singleton hc] at h
      cases hid : id? record with
      | none =>
        rw [hid] at h
        cases h
      | some found =>
        rw [hid] at h
        cases h
        rw [String.toList_ofList]
    · rw [find_of_several (by simp [hc])] at h
      cases h
  · rintro ⟨record, hc, hbears⟩
    rw [find_of_singleton hc, id?_of_bears hbears]
    exact congrArg Except.ok String.ofList_toList

theorem find_eq_of_perm (h : (candidates records).Perm (candidates records')) :
    find records = find records' := by
  rcases hc : candidates records with _ | ⟨record, _ | ⟨other, rest⟩⟩
  · rw [hc] at h
    simp only [find, hc, h.nil_eq.symm]
  · rw [hc, List.singleton_perm] at h
    rw [find_of_singleton hc, find_of_singleton h.symm]
  · have htwo : 2 ≤ (candidates records).length := by simp [hc]
    rw [find_of_several htwo, find_of_several (h.length_eq ▸ htwo), h.length_eq]

theorem perm_candidates {others : List String} (hothers : ∀ other ∈ others, ¬ Announces other)
    (h : records'.Perm (others ++ records)) : (candidates records').Perm (candidates records) := by
  have hnone : others.filter (fun record => Announces record) = [] :=
    List.filter_eq_nil_iff.mpr fun other hother => by simpa using hothers other hother
  have hfilter := h.filter fun record => decide (Announces record)
  rw [List.filter_append, hnone, List.nil_append] at hfilter
  rw [candidates_eq, candidates_eq]
  exact hfilter.map _

-- Strings are added at any places by a permutation of them and the others, and removed the other
-- way round.
theorem lone_formed_record_is_found (records : List String) :
    (∀ id, find records = .ok id ↔ ∃ pre record post, records = pre ++ record :: post ∧
      Announces record ∧
      (∀ other ∈ pre ++ post, ¬ Announces other) ∧ Bears (trimChars record.toList) id.toList) ∧
    (∀ record id id', Bears record id → Bears record id' → id = id') ∧
    ∀ others records', (∀ other ∈ others, ¬ Announces other) → records'.Perm (others ++ records) →
      find records' = find records := by
  refine ⟨fun id => ?_, fun _ _ _ => Bears.unique,
    fun _ _ hothers h => find_eq_of_perm (perm_candidates hothers h)⟩
  rw [find_eq_ok_iff]
  simp only [candidates_eq_singleton_iff]
  constructor
  · rintro ⟨_, ⟨pre, record, post, hrecords, hkind, hothers, rfl⟩, hbears⟩
    exact ⟨pre, record, post, hrecords, hkind, hothers, hbears⟩
  · rintro ⟨pre, record, post, hrecords, hkind, hothers, hbears⟩
    exact ⟨_, ⟨pre, record, post, hrecords, hkind, hothers, rfl⟩, hbears⟩

-- A no-break space before the tag, blanks before the semicolon, and a record of another kind.
theorem record_beside_another_is_found :
    ∃ record other : String, (∀ r ∈ [other], ¬ Announces r) ∧
      [record, other].Perm ([other] ++ [record]) ∧ Bears (trimChars record.toList) "A1".toList ∧
      find [record] = .ok "A1" ∧ find [record, other] = find [record] := by
  have hother : ∀ r ∈ ["v=spf1 -all"], ¬ Announces r := by decide +kernel
  have hbears : Bears (trimChars "\tv=STSv1;\u00A0id=A1 ;x=STS ".toList) "A1".toList :=
    { spelt := ⟨['\u00A0'], [' '], ";x=STS".toList, by decide +kernel, List.all_eq_true.mp rfl,
        List.all_eq_true.mp rfl, .more (by decide)⟩
      letters := List.all_eq_true.mp rfl
      length_pos := by decide +kernel
      length_le := by decide +kernel }
  obtain ⟨hfind, -, hothers⟩ := lone_formed_record_is_found ["\tv=STSv1;\u00A0id=A1 ;x=STS "]
  exact ⟨_, _, hother, .swap _ _ _, hbears,
    (hfind "A1").mpr ⟨[], _, [], rfl, by decide +kernel, nofun, hbears⟩,
    hothers _ _ hother (.swap _ _ _)⟩

end MailAudit.MtaSts.Record
