import MailAudit.Proofs.MtaSts.Entries
import MailAudit.Proofs.Text.Decimal

namespace MailAudit.MtaSts

open Text

theorem Mode.ofWord?_eq_some_iff {w : String} {mode : Mode} :
    ofWord? w = some mode ↔ w = mode.word := by
  constructor
  · intro h
    rw [ofWord?] at h
    split at h
    · cases h
      assumption
    · split at h
      · cases h
        assumption
      · split at h
        · cases h
          assumption
        · cases h
  · rintro rfl
    cases mode <;> rfl

namespace Policy

variable {key value line : List Char} {lines : List (List Char)} {es : List (List Char × List Char)}
  {names names' : List String} {p : Policy} {mode : Mode} {n : Nat}

inductive First (key value : List Char) : List (List Char) → Prop
  | here {line : List Char} {lines : List (List Char)} (hline : IsEntry key value line) :
      First key value (line :: lines)
  | later {line : List Char} {lines : List (List Char)} (hline : ∀ other, ¬ IsEntry key other line)
      (h : First key value lines) : First key value (line :: lines)

/-- The names on the lines that hold a pattern, in their order. A name that is empty once it is
normalized is left out. -/
inductive Names : List (List Char) → List String → Prop
  | nil : Names [] []
  | named {value line : List Char} {lines : List (List Char)} {names : List String}
      (hline : IsEntry patternKey value line)
        (hname : HostName.normalize (String.ofList value) ≠ "")
      (h : Names lines names) :
        Names (line :: lines) (HostName.normalize (String.ofList value) :: names)
  | unnamed {line : List Char} {lines : List (List Char)} {names : List String}
      (hline : ∀ value, IsEntry patternKey value line →
        HostName.normalize (String.ofList value) = "")
      (h : Names lines names) : Names (line :: lines) names

def NamesHost (lines : List (List Char)) : Prop :=
  ∃ line ∈ lines, ∃ value, IsEntry patternKey value line ∧
    HostName.normalize (String.ofList value) ≠ ""

structure Declares (lines : List (List Char)) (applied : Mode) (seconds : Nat) : Prop where
  paired : ∀ line ∈ lines, Blank line ∨ ':' ∈ line
  version : First "version".toList "STSv1".toList lines
  mode : First "mode".toList applied.word.toList lines
  maxAge : ∃ text, First "max_age".toList text lines ∧ Decimal.Spells text seconds
  seconds_le : seconds ≤ 31557600
  named : applied = .none ∨ NamesHost lines

theorem not_isEntry_of_blank (h : Blank line) : ¬ IsEntry key value line :=
  fun hline => not_blank_of_colon_mem hline.colon_mem h

theorem Reads.lookup_eq_some_iff (h : Reads lines es) :
    es.lookup key = some value ↔ First key value lines := by
  induction h with
  | nil => exact ⟨nofun, nofun⟩
  | blank hline _ ih =>
    rw [ih]
    constructor
    · exact .later fun _ => not_isEntry_of_blank hline
    · rintro (hentry | ⟨-, hfirst⟩)
      · exact absurd hentry (not_isEntry_of_blank hline)
      · exact hfirst
  | @entry key' value' line lines es hline _ ih =>
    by_cases hkey : key = key'
    · subst hkey
      rw [List.lookup_cons_self, Option.some.injEq]
      constructor
      · rintro rfl
        exact .here hline
      · rintro (hentry | ⟨hnone, -⟩)
        · exact (hline.unique hentry).2
        · exact absurd hline (hnone _)
    · rw [List.lookup_cons, beq_false_of_ne hkey, ih]
      constructor
      · exact .later fun other hentry => hkey (hentry.unique hline).1
      · rintro (hentry | ⟨-, hfirst⟩)
        · exact absurd (hentry.unique hline).1 hkey
        · exact hfirst

theorem Reads.names_patternsOf (h : Reads lines es) : Names lines (patternsOf es) := by
  induction h with
  | nil => exact .nil
  | blank hline _ ih =>
    exact .unnamed (fun _ hentry => absurd hentry (not_isEntry_of_blank hline)) ih
  | @entry key value line lines es hline _ ih =>
    rw [patternsOf_cons]
    by_cases hkey : key = patternKey
    · subst hkey
      rw [patternsOf_pattern]
      split
      · rename_i hname
        exact .unnamed (fun _ hentry => (hline.unique hentry).2 ▸ hname) ih
      · rename_i hname
        exact .named hline hname ih
    · rw [patternsOf_of_ne hkey]
      exact .unnamed (fun _ hentry => absurd (hline.unique hentry).1 hkey) ih

theorem Names.unique (h : Names lines names) (h' : Names lines names') : names = names' := by
  induction h generalizing names' with
  | nil =>
    cases h'
    rfl
  | named hline hname _ ih =>
    cases h' with
    | named hline' _ h' =>
      obtain ⟨-, rfl⟩ := hline.unique hline'
      rw [ih h']
    | unnamed hline' h' => exact absurd (hline' _ hline) hname
  | unnamed hline _ ih =>
    cases h' with
    | named hline' hname' h' => exact absurd (hline _ hline') hname'
    | unnamed _ h' => exact ih h'

theorem Names.ne_nil_iff (h : Names lines names) : names ≠ [] ↔ NamesHost lines := by
  induction h with
  | nil => simp [NamesHost]
  | named hline hname _ _ => simpa [NamesHost] using .inl ⟨_, hline, hname⟩
  | unnamed hline _ ih =>
    rw [ih, NamesHost, NamesHost, List.exists_mem_cons_iff]
    constructor
    · exact .inr
    · rintro (⟨value, hentry, hname⟩ | hrest)
      · exact absurd (hline value hentry) hname
      · exact hrest

theorem version_eq_ok_iff :
    version es = .ok () ↔ es.lookup "version".toList = some "STSv1".toList := by
  rw [version, first?]
  cases es.lookup "version".toList with
  | none => exact ⟨nofun, nofun⟩
  | some v =>
    have hword : String.ofList v = "STSv1" ↔ v = "STSv1".toList := by
      rw [← String.toList_inj, String.toList_ofList]
    simp only [Option.map_some, hword, Option.some.injEq]
    split
    · rename_i hv
      exact ⟨fun _ => hv, fun _ => rfl⟩
    · rename_i hv
      exact ⟨nofun, fun heq => absurd heq hv⟩

theorem modeOf_eq_ok_iff :
    modeOf es = .ok mode ↔ es.lookup "mode".toList = some mode.word.toList := by
  rw [modeOf, first?]
  cases es.lookup "mode".toList with
  | none => exact ⟨nofun, nofun⟩
  | some w =>
    have hword : Mode.ofWord? (String.ofList w) = some mode ↔ w = mode.word.toList := by
      rw [Mode.ofWord?_eq_some_iff, ← String.toList_inj, String.toList_ofList]
    simp only [Option.map_some, Option.some.injEq, ← hword]
    cases Mode.ofWord? (String.ofList w) <;> simp

theorem longestMaxAge_le_maxWord : longestMaxAge ≤ Decimal.maxWord := by decide

theorem maxAgeOf_eq_ok_iff :
    maxAgeOf es = .ok n ↔
      (∃ text, es.lookup "max_age".toList = some text ∧ Decimal.Spells text n) ∧
      n ≤ longestMaxAge := by
  rw [maxAgeOf, first?]
  cases es.lookup "max_age".toList with
  | none => simp
  | some text =>
    simp only [Option.map_some, String.toList_ofList, Option.some.injEq, exists_eq_left']
    constructor
    · intro h
      split at h
      · cases h
      · rename_i k hread
        split at h
        · cases h
        · rename_i hle
          cases h
          exact ⟨(Decimal.read?_eq_some_iff.mp hread).1, Nat.le_of_not_lt hle⟩
    · rintro ⟨hspells, hle⟩
      rw [Decimal.read?_eq_some_iff.mpr ⟨hspells, hle.trans longestMaxAge_le_maxWord⟩]
      simp only [if_neg (Nat.not_lt.mpr hle)]

theorem bind_eq_ok_iff {ε α β : Type} {x : Except ε α} {f : α → Except ε β} {b : β} :
    x >>= f = .ok b ↔ ∃ a, x = .ok a ∧ f a = .ok b := by
  cases x with
  | error e => exact ⟨nofun, nofun⟩
  | ok a =>
    constructor
    · exact fun h => ⟨a, rfl, h⟩
    · rintro ⟨a', ha, h⟩
      cases ha
      exact h

theorem toNat_ofNat_of_le_longestMaxAge (h : n ≤ longestMaxAge) : (UInt64.ofNat n).toNat = n :=
  UInt64.toNat_ofNat_of_lt' (h.trans_lt (by decide))

theorem ofEntries_eq_ok_iff :
    ofEntries es = .ok p ↔
      version es = .ok () ∧ modeOf es = .ok p.mode ∧ maxAgeOf es = .ok p.maxAge.toNat ∧
        p.patterns = patternsOf es ∧ (p.mode = .none ∨ patternsOf es ≠ []) := by
  simp only [ofEntries, bind_eq_ok_iff]
  constructor
  · rintro ⟨⟨⟩, hversion, mode, hmode, n, hage, h⟩
    split at h
    · cases h
    · rename_i hnamed
      cases h
      have hn : (UInt64.ofNat n).toNat = n :=
        toNat_ofNat_of_le_longestMaxAge (maxAgeOf_eq_ok_iff.mp hage).2
      rw [Bool.and_eq_true, List.isEmpty_iff, bne_iff_ne, not_and_not_right] at hnamed
      exact ⟨hversion, hmode, hn.symm ▸ hage, rfl, (not_or_of_imp hnamed).symm⟩
  · rintro ⟨hversion, hmode, hage, hpatterns, hnamed⟩
    refine ⟨(), hversion, p.mode, hmode, p.maxAge.toNat, hage, ?_⟩
    have hsome : ((patternsOf es).isEmpty && p.mode != .none) = false := by
      rw [Bool.and_eq_false_iff, List.isEmpty_eq_false_iff, bne_eq_false_iff_eq]
      exact hnamed.symm
    rw [hsome, if_neg Bool.false_ne_true, UInt64.ofNat_toNat, ← hpatterns]

theorem read_eq_ok_iff {body : String} (hlines : Lined lines body.toList) :
    read body = .ok p ↔ Declares lines p.mode p.maxAge.toNat ∧ Names lines p.patterns := by
  rw [read_eq, entriesOf_lines hlines]
  simp only [bind_eq_ok_iff, entriesOf_eq_ok_iff, ofEntries_eq_ok_iff, version_eq_ok_iff,
    modeOf_eq_ok_iff, maxAgeOf_eq_ok_iff]
  constructor
  · rintro ⟨es, hes, hversion, hmode, ⟨⟨text, htext, hspells⟩, hle⟩, hpatterns, hnamed⟩
    have hnames := hes.names_patternsOf
    exact ⟨⟨paired_iff.mp ⟨es, hes⟩, hes.lookup_eq_some_iff.mp hversion,
      hes.lookup_eq_some_iff.mp hmode, ⟨text, hes.lookup_eq_some_iff.mp htext, hspells⟩, hle,
      hnamed.imp_right hnames.ne_nil_iff.mp⟩,
      hpatterns ▸ hnames⟩
  · rintro ⟨⟨hpaired, hversion, hmode, ⟨text, htext, hspells⟩, hle, hnamed⟩, hnames⟩
    obtain ⟨es, hes⟩ := paired_iff.mpr hpaired
    have hpatterns := hes.names_patternsOf
    exact ⟨es, hes, hes.lookup_eq_some_iff.mpr hversion, hes.lookup_eq_some_iff.mpr hmode,
      ⟨⟨text, hes.lookup_eq_some_iff.mpr htext, hspells⟩, hle⟩, hnames.unique hpatterns,
      hnamed.imp_right hpatterns.ne_nil_iff.mpr⟩

theorem exists_read_iff {body : String} (hlines : Lined lines body.toList) :
    (∃ p, read body = .ok p) ↔ ∃ mode seconds, Declares lines mode seconds := by
  constructor
  · rintro ⟨p, hread⟩
    exact ⟨p.mode, p.maxAge.toNat, ((read_eq_ok_iff hlines).mp hread).1⟩
  · rintro ⟨mode, seconds, h⟩
    obtain ⟨es, hes⟩ := paired_iff.mpr h.paired
    have hnames := hes.names_patternsOf
    refine ⟨⟨mode, .ofNat seconds, patternsOf es⟩, (read_eq_ok_iff hlines).mpr ⟨?_, hnames⟩⟩
    rwa [toNat_ofNat_of_le_longestMaxAge h.seconds_le]

/-- A body is accepted exactly if its lines declare a policy, and then it is read as that policy.
These are the lines into which the body is cut, and all others that it may be taken to consist
of. -/
theorem read_accepts_exactly_declared_policies (body : String) :
    ((∃ p, read body = .ok p) ↔ ∃ mode seconds, Declares (Text.lines body.toList) mode seconds) ∧
    (∀ p, read body = .ok p ↔
      Declares (Text.lines body.toList) p.mode p.maxAge.toNat ∧
      Names (Text.lines body.toList) p.patterns) ∧
    (∃ lines, Lined lines body.toList) ∧
    ∀ lines, Lined lines body.toList →
      ((∃ p, read body = .ok p) ↔ ∃ mode seconds, Declares lines mode seconds) ∧
      ∀ p, read body = .ok p ↔ Declares lines p.mode p.maxAge.toNat ∧ Names lines p.patterns := by
  have hlined := lined_lines body.toList
  exact ⟨exists_read_iff hlined, fun _ => read_eq_ok_iff hlined, ⟨_, hlined⟩,
    fun _ hlines => ⟨exists_read_iff hlines, fun _ => read_eq_ok_iff hlines⟩⟩

theorem mixed_line_ends_are_accepted :
    let body :=
      "version: STSv1\r\nversion: STSv2\n\nmode : enforce\r\nmx: *.Example.com.\nmx:\nmax_age:+0604800\r"
    let lines := ["version: STSv1".toList, "version: STSv2".toList, [], "mode : enforce".toList,
      "mx: *.Example.com.".toList, "mx:".toList, "max_age:+0604800\r".toList]
    Lined lines body.toList ∧ read body = .ok ⟨.enforce, 604800, ["*.example.com"]⟩ ∧
      Declares lines .enforce 604800 ∧ Names lines ["*.example.com"] := by
  intro body lines
  have hbody : body.toList =
      "version: STSv1".toList ++ '\r' :: '\n' :: ("version: STSv2".toList ++ '\n' :: ([] ++ '\n' ::
        ("mode : enforce".toList ++ '\r' :: '\n' :: ("mx: *.Example.com.".toList ++ '\n' ::
          ("mx:".toList ++ '\n' :: "max_age:+0604800\r".toList))))) := by decide +kernel
  have hlines : Lined lines body.toList := by
    rw [hbody]
    exact .returnFeed (by decide) <| .feed (by decide) <| .feed (by decide) <|
      .returnFeed (by decide) <|
      .feed (by decide) <| .feed (by decide) <| .last (by decide)
  have hread : read body = .ok ⟨.enforce, 604800, ["*.example.com"]⟩ := by decide +kernel
  obtain ⟨-, -, -, hgiven⟩ := read_accepts_exactly_declared_policies body
  obtain ⟨hdeclares, hnames⟩ := ((hgiven lines hlines).2 _).mp hread
  exact ⟨hlines, hread, hdeclares, hnames⟩

end Policy

end MailAudit.MtaSts
