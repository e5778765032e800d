import MailAudit.Proofs.MtaSts.Entries
import Mathlib.Logic.Relation

/-! How a policy file is laid out makes no difference to what is read from it, a fault included:
neither line ends, blanks around lines, keys and values, blank lines and lines with other keys,
lines that repeat a key which counts once, nor the order of lines with different keys. -/

namespace MailAudit.MtaSts.Policy

open Text

variable {key key' value value' line line' : List Char}
  {pre post mid mid' lines lines' : List (List Char)}
  {es fs ms ms' : List (List Char × List Char)}

/-- The keys of which the first line counts. -/
def scalarKeys : List (List Char) := ["version".toList, "mode".toList, "max_age".toList]

inductive Edit : List (List Char) → List (List Char) → Prop
  | pad (pre post : List (List Char)) (line : List Char) {before after : List Char}
      (hbefore : Blank before) (hafter : Blank after) :
        Edit (pre ++ line :: post) (pre ++ (before ++ line ++ after) :: post)
  | padEntry (pre post : List (List Char)) {key : List Char} (value : List Char)
      {b₁ b₂ b₃ b₄ : List Char}
      (hkey : ':' ∉ key) (h₁ : Blank b₁) (h₂ : Blank b₂) (h₃ : Blank b₃) (h₄ : Blank b₄) :
      Edit (pre ++ (key ++ ':' :: value) :: post)
        (pre ++ ((b₁ ++ key ++ b₂) ++ ':' :: (b₃ ++ value ++ b₄)) :: post)
  | addBlank (pre post : List (List Char)) {line : List Char} (hline : Blank line) :
      Edit (pre ++ post) (pre ++ line :: post)
  | addIgnored (pre post : List (List Char)) {key value line : List Char}
      (hline : IsEntry key value line)
      (hkey : key ∉ patternKey :: scalarKeys) : Edit (pre ++ post) (pre ++ line :: post)
  | addRepeated (pre post : List (List Char)) {key value value' line line' : List Char}
      (hkey : key ∈ scalarKeys)
      (hfirst : line ∈ pre) (hline : IsEntry key value line) (hline' : IsEntry key value' line') :
      Edit (pre ++ post) (pre ++ line' :: post)
  | swap (pre post : List (List Char)) {key key' value value' line line' : List Char}
      (hline : IsEntry key value line) (hline' : IsEntry key' value' line') (hkeys : key ≠ key') :
      Edit (pre ++ line :: line' :: post) (pre ++ line' :: line :: post)

def Alike (es fs : List (List Char × List Char)) : Prop :=
  (∀ key ∈ scalarKeys, es.lookup key = fs.lookup key) ∧ patternsOf es = patternsOf fs

theorem Alike.ofEntries_eq (h : Alike es fs) : ofEntries es = ofEntries fs := by
  obtain ⟨hkeys, hpatterns⟩ := h
  have hversion := hkeys "version".toList (by simp [scalarKeys])
  have hmode := hkeys "mode".toList (by simp [scalarKeys])
  have hage := hkeys "max_age".toList (by simp [scalarKeys])
  simp only [ofEntries, version, modeOf, maxAgeOf, first?, hversion, hmode, hage, hpatterns]

theorem lookup_of_ne (h : key ≠ key') : [(key', value)].lookup key = none := by
  rw [List.lookup_cons, beq_false_of_ne h]
  rfl

theorem patternKey_notMem_scalarKeys : patternKey ∉ scalarKeys := by decide

theorem alike_ignored (hkey : key ∉ patternKey :: scalarKeys) :
    Alike (es ++ fs) (es ++ ([(key, value)] ++ fs)) := by
  obtain ⟨hpattern, hscalar⟩ := not_or.mp (mt List.mem_cons.mpr hkey)
  constructor
  · intro key' hkey'
    have hne : key' ≠ key := fun heq => hscalar (heq ▸ hkey')
    rw [List.lookup_append, List.lookup_append, List.lookup_append, lookup_of_ne hne,
      Option.none_or]
  · rw [patternsOf_append, patternsOf_append, patternsOf_append, patternsOf_of_ne hpattern,
      List.nil_append]

theorem alike_repeated (hkey : key ∈ scalarKeys) (hfirst : (es.lookup key).isSome = true) :
    Alike (es ++ fs) (es ++ ([(key, value)] ++ fs)) := by
  constructor
  · intro key' _
    rw [List.lookup_append, List.lookup_append, List.lookup_append]
    by_cases heq : key' = key
    · obtain ⟨v, hv⟩ := Option.isSome_iff_exists.mp hfirst
      rw [heq, hv, Option.some_or, Option.some_or]
    · rw [lookup_of_ne heq, Option.none_or]
  · have hpattern : key ≠ patternKey := fun heq => patternKey_notMem_scalarKeys (heq ▸ hkey)
    rw [patternsOf_append, patternsOf_append, patternsOf_append, patternsOf_of_ne hpattern,
      List.nil_append]

theorem alike_swap (hkeys : key ≠ key') :
    Alike (es ++ ([(key, value), (key', value')] ++ fs))
      (es ++ ([(key', value'), (key, value)] ++ fs)) := by
  constructor
  · intro k _
    have hlookup :
        [(key, value), (key', value')].lookup k = [(key', value'), (key, value)].lookup k := by
      by_cases hk : k = key
      · rw [hk, List.lookup_cons_self, List.lookup_cons, beq_false_of_ne hkeys]
        exact List.lookup_cons_self.symm
      · rw [List.lookup_cons, beq_false_of_ne hk, List.lookup_cons, List.lookup_cons,
          lookup_of_ne hk]
        rfl
    simp only [List.lookup_append, hlookup]
  · have hpatterns :
        patternsOf [(key, value), (key', value')] = patternsOf [(key', value'), (key, value)] := by
      change patternsOf ([_] ++ [_]) = patternsOf ([_] ++ [_])
      rw [patternsOf_append, patternsOf_append]
      -- At most one of the two entries holds a name.
      by_cases hkey : key = patternKey
      · rw [patternsOf_of_ne (fun heq => hkeys (hkey.trans heq.symm)), List.append_nil,
          List.nil_append]
      · rw [patternsOf_of_ne hkey, List.append_nil, List.nil_append]
    simp only [patternsOf_append, hpatterns]

def readLines (lines : List (List Char)) : Except PolicyError Policy := do
  ofEntries (← entriesOf lines)

theorem readLines_append (pre mid post : List (List Char)) :
    readLines (pre ++ (mid ++ post)) = (do
      let es ← entriesOf pre
      let ms ← entriesOf mid
      let fs ← entriesOf post
      ofEntries (es ++ (ms ++ fs))) := by
  simp only [readLines, entriesOf_append, bind_assoc, pure_bind]

theorem readLines_congr (pre post : List (List Char)) (h : entriesOf mid = entriesOf mid') :
    readLines (pre ++ (mid ++ post)) = readLines (pre ++ (mid' ++ post)) := by
  rw [readLines_append, readLines_append, h]

theorem readLines_of_alike (post : List (List Char)) (hmid : Reads mid ms) (hmid' : Reads mid' ms')
    (h : ∀ es fs, Reads pre es → Alike (es ++ (ms ++ fs)) (es ++ (ms' ++ fs))) :
    readLines (pre ++ (mid ++ post)) = readLines (pre ++ (mid' ++ post)) := by
  rw [readLines_append, readLines_append, hmid.entriesOf_eq, hmid'.entriesOf_eq]
  cases hpre : entriesOf pre with
  | error e => rfl
  | ok es =>
    cases entriesOf post with
    | error e => rfl
    | ok fs => exact (h es fs (entriesOf_eq_ok_iff.mp hpre)).ofEntries_eq

theorem Reads.isSome_lookup (h : Reads lines es) (hmem : line ∈ lines)
    (hline : IsEntry key value line) :
    (es.lookup key).isSome = true := by
  induction h with
  | nil => cases hmem
  | blank hblank _ ih =>
    rcases List.mem_cons.mp hmem with rfl | hmem
    · exact absurd hblank (not_blank_of_colon_mem hline.colon_mem)
    · exact ih hmem
  | @entry key' _ _ _ _ hentry _ ih =>
    by_cases hkey : key = key'
    · rw [hkey, List.lookup_cons_self]
      rfl
    · rw [List.lookup_cons, beq_false_of_ne hkey]
      rcases List.mem_cons.mp hmem with rfl | hmem
      · exact absurd (hline.unique hentry).1 hkey
      · exact ih hmem

theorem entriesOf_padEntry {b₁ b₂ b₃ b₄ : List Char} (hkey : ':' ∉ key)
    (h₁ : Blank b₁) (h₂ : Blank b₂) (h₃ : Blank b₃) (h₄ : Blank b₄) :
    entriesOf [key ++ ':' :: value] =
      entriesOf [(b₁ ++ key ++ b₂) ++ ':' :: (b₃ ++ value ++ b₄)] := by
  have hkey' : ':' ∉ b₁ ++ key ++ b₂ := by
    rw [List.mem_append, List.mem_append, not_or, not_or]
    exact ⟨⟨fun h => not_blank_of_colon_mem h h₁, hkey⟩, fun h => not_blank_of_colon_mem h h₂⟩
  have hpadded := isEntry_append_cons hkey' (b₃ ++ value ++ b₄)
  rw [trimChars_pad h₁ h₂, trimChars_pad h₃ h₄] at hpadded
  rw [entriesOf_isEntry (isEntry_append_cons hkey value), entriesOf_isEntry hpadded]

theorem readLines_edit (h : Edit lines lines') : readLines lines = readLines lines' := by
  cases h with
  | pad pre post line hbefore hafter =>
    exact readLines_congr pre post (entriesOf_congr (trimChars_pad hbefore hafter).symm)
  | padEntry pre post value hkey h₁ h₂ h₃ h₄ =>
    exact readLines_congr pre post (entriesOf_padEntry hkey h₁ h₂ h₃ h₄)
  | addBlank pre post hline =>
    refine readLines_of_alike post .nil (.blank hline .nil) ?_
    exact fun _ _ _ => ⟨fun _ _ => rfl, rfl⟩
  | addIgnored pre post hline hkey =>
    refine readLines_of_alike post .nil (.entry hline .nil) ?_
    exact fun _ _ _ => alike_ignored hkey
  | addRepeated pre post hkey hfirst hline hline' =>
    refine readLines_of_alike post .nil (.entry hline' .nil) ?_
    exact fun _ _ hpre => alike_repeated hkey (hpre.isSome_lookup hfirst hline)
  | swap pre post hline hline' hkeys =>
    refine readLines_of_alike post (.entry hline (.entry hline' .nil))
      (.entry hline' (.entry hline .nil)) ?_
    exact fun _ _ _ => alike_swap hkeys

theorem readLines_of_edits (h : Relation.EqvGen Edit lines lines') :
    readLines lines = readLines lines' := by
  induction h with
  | rel _ _ h => exact readLines_edit h
  | refl _ => rfl
  | symm _ _ _ ih => exact ih.symm
  | trans _ _ _ _ _ ih ih' => exact ih.trans ih'

theorem read_eq_readLines (body : String) : read body = readLines (Text.lines body.toList) := rfl

theorem read_withReturns (body : String) :
    read (String.ofList (withReturns body.toList)) = read body := by
  rw [read_eq_readLines, read_eq_readLines, readLines, readLines, entriesOf, entriesOf,
    String.toList_ofList, trimmed_lines_withReturns]

theorem read_unlines (h : ∀ line ∈ lines, '\n' ∉ line) :
    read (String.ofList (unlines lines)) = readLines lines := by
  rw [read_eq_readLines, readLines, readLines, String.toList_ofList,
    entriesOf_lines (lined_unlines h)]

theorem read_ignores_layout (body : String) :
    read (String.ofList (withReturns body.toList)) = read body ∧
    (∀ body' : String, Relation.EqvGen Edit (Text.lines body.toList) (Text.lines body'.toList) →
      read body' = read body) ∧
    ∀ lines, Relation.EqvGen Edit (Text.lines body.toList) lines → (∀ line ∈ lines, '\n' ∉ line) →
      read (String.ofList (unlines lines)) = read body := by
  refine ⟨read_withReturns body, ?_, ?_⟩
  · intro body' h
    exact (readLines_of_edits h).symm
  · intro lines h hlines
    rw [read_unlines hlines, read_eq_readLines]
    exact (readLines_of_edits h).symm

theorem rearranged_file_has_the_same_fault :
    ∃ (body body' : String) (lines : List (List Char)),
      Relation.EqvGen Edit (Text.lines body.toList) (Text.lines body'.toList) ∧
      Relation.EqvGen Edit (Text.lines body.toList) lines ∧ (∀ line ∈ lines, '\n' ∉ line) ∧
      read body = .error (.invalidMode "strict") ∧ read body' = read body ∧
      read (String.ofList (unlines lines)) = read body ∧
      read (String.ofList (withReturns body.toList)) = read body := by
  let version := "version: STSv1".toList
  let mode := "mode: strict".toList
  let padded := "\t mode: strict".toList
  let note := "note: mx".toList
  let again := "version: STSv2".toList
  have hversion : IsEntry "version".toList "STSv1".toList version :=
    isEntry_append_cons (by decide : ':' ∉ "version".toList) " STSv1".toList
  have hmode : IsEntry "mode".toList "strict".toList mode :=
    isEntry_append_cons (by decide : ':' ∉ "mode".toList) " strict".toList
  have hnote : IsEntry "note".toList "mx".toList note :=
    isEntry_append_cons (by decide : ':' ∉ "note".toList) " mx".toList
  have hagain : IsEntry "version".toList "STSv2".toList again :=
    isEntry_append_cons (by decide : ':' ∉ "version".toList) " STSv2".toList
  have hswap : Edit [version, mode] [mode, version] := .swap [] [] hversion hmode (by decide)
  have hpad : Edit [mode, version] [padded, version] :=
    .pad [] [version] mode (List.all_eq_true.mp rfl : Blank "\t ".toList) (nofun : Blank [])
  have hblank : Edit [padded, version] [padded, [], version] := .addBlank [padded] [version] nofun
  have hignored : Edit [padded, [], version] [padded, [], version, note] :=
    .addIgnored [padded, [], version] [] hnote (by decide)
  have hrepeated : Edit [padded, [], version, note] [padded, [], version, note, again] :=
    .addRepeated [padded, [], version, note] [] (by decide) (by simp) hversion hagain
  have hedits : Relation.EqvGen Edit (Text.lines "version: STSv1\nmode: strict\n".toList)
      [padded, [], version, note, again] :=
    .trans _ _ _ (.rel _ _ hswap) <| .trans _ _ _ (.rel _ _ hpad) <|
      .trans _ _ _ (.rel _ _ hblank) <|
      .trans _ _ _ (.rel _ _ hignored) (.rel _ _ hrepeated)
  obtain ⟨hreturns, hbody, hlines⟩ := read_ignores_layout "version: STSv1\nmode: strict\n"
  have hplain : ∀ line ∈ [padded, [], version, note, again], '\n' ∉ line := by decide
  exact ⟨_, "\t mode: strict\n\nversion: STSv1\nnote: mx\nversion: STSv2\n", _, hedits,
    hedits, hplain, rfl, hbody _ hedits, hlines _ hedits hplain, hreturns⟩

end MailAudit.MtaSts.Policy
