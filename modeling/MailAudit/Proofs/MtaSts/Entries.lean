import MailAudit.MtaSts.Policy
import MailAudit.Proofs.Text.Blank

namespace MailAudit.MtaSts.Policy

open Text

variable {key key' value value' line line' : List Char} {lines pre post : List (List Char)}
  {es : List (List Char × List Char)}

/-- What stands before the first colon of a line is the key with blanks around it, and what stands
after it the value with blanks around it. -/
def IsEntry (key value line : List Char) : Prop :=
  ∃ before after, line = before ++ ':' :: after ∧ ':' ∉ before ∧ Padded key before ∧
    Padded value after

theorem isBlank_colon : isBlank ':' = false := rfl

theorem isEntry_append_cons {before : List Char} (h : ':' ∉ before) (after : List Char) :
    IsEntry (trimChars before) (trimChars after) (before ++ ':' :: after) :=
  ⟨before, after, rfl, h, trimChars_eq_iff.mp rfl, trimChars_eq_iff.mp rfl⟩

theorem exists_isEntry (h : ':' ∈ line) : ∃ key value, IsEntry key value line := by
  obtain ⟨before, after, rfl, hbefore⟩ := List.eq_append_cons_of_mem h
  exact ⟨_, _, isEntry_append_cons hbefore after⟩

theorem IsEntry.colon_mem (h : IsEntry key value line) : ':' ∈ line := by
  obtain ⟨before, after, rfl, -⟩ := h
  exact List.mem_append_right before List.mem_cons_self

theorem not_blank_of_colon_mem (h : ':' ∈ line) : ¬ Blank line := by
  intro hblank
  have hcolon := hblank ':' h
  rw [isBlank_colon] at hcolon
  cases hcolon

theorem entry_of_isEntry (h : IsEntry key value line) :
    entry (trimChars line) = .ok (key, value) := by
  obtain ⟨before, after, rfl, hbefore, hkey, hvalue⟩ := h
  have hstart : ':' ∉ trimStart before := fun hmem => hbefore (List.dropWhile_sublist _ |>.mem hmem)
  rw [trimChars_append_cons isBlank_colon, entry, splitOnce_append_cons hstart]
  simp only [trimChars_trimStart, trimChars_trimEnd, trimChars_eq_iff.mpr hkey,
    trimChars_eq_iff.mpr hvalue]

theorem IsEntry.unique (h : IsEntry key value line) (h' : IsEntry key' value' line) :
    key = key' ∧ value = value' := by
  have heq := (entry_of_isEntry h).symm.trans (entry_of_isEntry h')
  cases heq
  exact ⟨rfl, rfl⟩

theorem entry_of_colon_notMem (h : ':' ∉ line) :
    entry (trimChars line) = .error (.malformedLine (String.ofList (trimChars line))) := by
  have hmem : ':' ∉ trimChars line := by
    obtain ⟨before, after, heq, -⟩ := exists_eq_append_trimChars line
    intro hcolon
    exact h (heq ▸ List.mem_append_left after (List.mem_append_right before hcolon))
  rw [entry, splitOnce_eq_none_iff.mpr hmem]

def entriesOf (lines : List (List Char)) : Except PolicyError (List (List Char × List Char)) :=
  ((lines.map trimChars).filter fun line => !line.isEmpty).mapM entry

theorem entriesOf_append (pre post : List (List Char)) :
    entriesOf (pre ++ post) = (do
      let es ← entriesOf pre
      let fs ← entriesOf post
      pure (es ++ fs)) := by
  rw [entriesOf, List.map_append, List.filter_append, List.mapM_append]
  rfl

theorem entriesOf_blank (h : Blank line) : entriesOf [line] = .ok [] := by
  simp only [entriesOf, List.map_cons, List.map_nil, trimChars_eq_nil_iff.mpr h, List.filter_cons,
    List.isEmpty_nil]
  rfl

theorem entriesOf_singleton (h : ¬ Blank line) :
    entriesOf [line] = (entry (trimChars line)).map fun e => [e] := by
  have hne : (trimChars line).isEmpty = false := by
    rwa [List.isEmpty_eq_false_iff, Ne, trimChars_eq_nil_iff]
  simp only [entriesOf, List.map_cons, List.map_nil, List.filter_cons, hne, Bool.not_false, if_true,
    List.filter_nil, List.mapM_cons, List.mapM_nil]
  cases entry (trimChars line) <;> rfl

theorem entriesOf_isEntry (h : IsEntry key value line) : entriesOf [line] = .ok [(key, value)] := by
  rw [entriesOf_singleton (not_blank_of_colon_mem h.colon_mem), entry_of_isEntry h]
  rfl

theorem entriesOf_congr (h : trimChars line = trimChars line') :
    entriesOf [line] = entriesOf [line'] := by
  rw [entriesOf, entriesOf, List.map_singleton, List.map_singleton, h]

inductive Reads : List (List Char) → List (List Char × List Char) → Prop
  | nil : Reads [] []
  | blank {line : List Char} {lines : List (List Char)} {es : List (List Char × List Char)}
      (hline : Blank line) (h : Reads lines es) : Reads (line :: lines) es
  | entry {key value line : List Char} {lines : List (List Char)}
      {es : List (List Char × List Char)}
      (hline : IsEntry key value line) (h : Reads lines es) :
        Reads (line :: lines) ((key, value) :: es)

theorem entriesOf_cons (line : List Char) (lines : List (List Char)) :
    entriesOf (line :: lines) = (do
      let es ← entriesOf [line]
      let fs ← entriesOf lines
      pure (es ++ fs)) :=
  entriesOf_append [line] lines

theorem Reads.entriesOf_eq (h : Reads lines es) : entriesOf lines = .ok es := by
  induction h with
  | nil => rfl
  | blank hline _ ih =>
    rw [entriesOf_cons, entriesOf_blank hline, ih]
    rfl
  | entry hline _ ih =>
    rw [entriesOf_cons, entriesOf_isEntry hline, ih]
    rfl

theorem reads_of_paired (h : ∀ line ∈ lines, Blank line ∨ ':' ∈ line) : ∃ es, Reads lines es := by
  induction lines with
  | nil => exact ⟨[], .nil⟩
  | cons line lines ih =>
    obtain ⟨hline, hlines⟩ := List.forall_mem_cons.mp h
    obtain ⟨es, hes⟩ := ih hlines
    rcases hline with hblank | hcolon
    · exact ⟨es, .blank hblank hes⟩
    · obtain ⟨key, value, hentry⟩ := exists_isEntry hcolon
      exact ⟨(key, value) :: es, .entry hentry hes⟩

theorem paired_of_entriesOf_eq_ok (h : entriesOf lines = .ok es) :
    ∀ line ∈ lines, Blank line ∨ ':' ∈ line := by
  induction lines generalizing es with
  | nil => exact nofun
  | cons line lines ih =>
    rw [entriesOf_cons] at h
    cases hline : entriesOf [line] with
    | error e =>
      rw [hline] at h
      cases h
    | ok fs =>
      cases hlines : entriesOf lines with
      | error e =>
        rw [hline, hlines] at h
        cases h
      | ok gs =>
        refine List.forall_mem_cons.mpr ⟨?_, ih hlines⟩
        by_contra hbad
        obtain ⟨hblank, hcolon⟩ := not_or.mp hbad
        rw [entriesOf_singleton hblank, entry_of_colon_notMem hcolon] at hline
        cases hline

theorem entriesOf_eq_ok_iff : entriesOf lines = .ok es ↔ Reads lines es := by
  constructor
  · intro h
    obtain ⟨fs, hfs⟩ := reads_of_paired (paired_of_entriesOf_eq_ok h)
    have heq := hfs.entriesOf_eq.symm.trans h
    cases heq
    exact hfs
  · exact Reads.entriesOf_eq

theorem paired_iff : (∃ es, Reads lines es) ↔ ∀ line ∈ lines, Blank line ∨ ':' ∈ line := by
  constructor
  · rintro ⟨es, h⟩
    exact paired_of_entriesOf_eq_ok h.entriesOf_eq
  · exact reads_of_paired

def patternKey : List Char := "mx".toList

theorem patternsOf_append (es fs : List (List Char × List Char)) :
    patternsOf (es ++ fs) = patternsOf es ++ patternsOf fs := by
  rw [patternsOf, List.filter_append, List.filterMap_append]
  rfl

theorem patternsOf_cons (e : List Char × List Char) (es : List (List Char × List Char)) :
    patternsOf (e :: es) = patternsOf [e] ++ patternsOf es :=
  patternsOf_append [e] es

theorem patternsOf_of_ne (h : key ≠ patternKey) : patternsOf [(key, value)] = [] := by
  rw [patternsOf, List.filter_cons_of_neg (by rwa [beq_iff_eq])]
  rfl

theorem patternsOf_pattern (value : List Char) :
    patternsOf [(patternKey, value)] =
      if HostName.normalize (String.ofList value) = "" then []
      else [HostName.normalize (String.ofList value)] := by
  change [(patternKey, value)].filterMap _ = _
  simp only [List.filterMap_cons, List.filterMap_nil]
  by_cases hname : HostName.normalize (String.ofList value) = ""
  · simp only [if_pos hname]
  · simp only [if_neg hname]

theorem entriesOf_lines {cs : List Char} (h : Lined lines cs) :
    entriesOf (Text.lines cs) = entriesOf lines := by
  rw [entriesOf, entriesOf, h.trimmed]

theorem read_eq (body : String) :
    read body = (do ofEntries (← entriesOf (Text.lines body.toList))) := rfl

end MailAudit.MtaSts.Policy
