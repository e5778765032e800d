import MailAudit.Text.Blank
import Mathlib.Data.List.DropRight
import Mathlib.Data.List.Forall2

namespace MailAudit.Text

variable {cs ds core before after : List Char}

def Blank (cs : List Char) : Prop := ∀ c ∈ cs, isBlank c = true

theorem dropEndWhile_eq (p : Char → Bool) (cs : List Char) :
    dropEndWhile p cs = cs.rdropWhile p := rfl

theorem prefix_dropEndWhile (p : Char → Bool) (cs : List Char) : dropEndWhile p cs <+: cs :=
  List.rdropWhile_prefix p cs

theorem dropEndWhile_eq_self_iff {p : Char → Bool} :
    dropEndWhile p cs = cs ↔ ∀ c ∈ cs.getLast?, p c = false := by
  rw [dropEndWhile_eq, List.rdropWhile_eq_self_iff]
  cases cs using List.reverseRecOn with
  | nil => simp
  | append_singleton cs c => simp

theorem dropEndWhile_append_of_pos {p : Char → Bool} (h : ∀ c ∈ after, p c = true) :
    dropEndWhile p (cs ++ after) = dropEndWhile p cs := by
  rw [dropEndWhile, List.reverse_append,
    List.dropWhile_append_of_pos fun c hc => h c (List.mem_reverse.mp hc)]
  rfl

theorem exists_eq_dropEndWhile_append (p : Char → Bool) (cs : List Char) :
    ∃ after, cs = dropEndWhile p cs ++ after ∧ ∀ c ∈ after, p c = true :=
  ⟨cs.rtakeWhile p, List.rdropWhile_append_rtakeWhile.symm, fun _ hc => List.mem_rtakeWhile_imp hc⟩

theorem last_dropEndWhile {p : Char → Bool} : ∀ c ∈ (dropEndWhile p cs).getLast?, p c = false := by
  rw [← dropEndWhile_eq_self_iff, dropEndWhile_eq, dropEndWhile_eq, List.rdropWhile_idempotent]

theorem head_trimStart : ∀ c ∈ (trimStart cs).head?, isBlank c = false := by
  intro c hc
  have hnot := List.head?_dropWhile_not isBlank cs
  rw [← trimStart, hc] at hnot
  exact hnot

theorem trimStart_cons {c : Char} (h : isBlank c = false) (cs : List Char) :
    trimStart (c :: cs) = c :: cs :=
  List.dropWhile_cons_of_neg (by simp [h])

theorem trimStart_eq_self (h : ∀ c ∈ cs.head?, isBlank c = false) : trimStart cs = cs := by
  cases cs with
  | nil => rfl
  | cons c cs => exact trimStart_cons (h c rfl) cs

theorem head_of_prefix {p : Char → Prop} (hbegins : cs <+: ds) (h : ∀ c ∈ ds.head?, p c) :
    ∀ c ∈ cs.head?, p c := by
  obtain ⟨rest, rfl⟩ := hbegins
  cases cs with
  | nil => exact nofun
  | cons c cs => exact h

theorem head_trimChars : ∀ c ∈ (trimChars cs).head?, isBlank c = false :=
  head_of_prefix (prefix_dropEndWhile _ _) head_trimStart

theorem trimChars_eq_self (hhead : ∀ c ∈ cs.head?, isBlank c = false)
    (hlast : ∀ c ∈ cs.getLast?, isBlank c = false) : trimChars cs = cs := by
  rw [trimChars, trimStart_eq_self hhead]
  exact dropEndWhile_eq_self_iff.mpr hlast

theorem trimStart_append_blank (h : Blank before) : trimStart (before ++ cs) = trimStart cs :=
  List.dropWhile_append_of_pos h

theorem trimEnd_append_blank (h : Blank after) : trimEnd (cs ++ after) = trimEnd cs :=
  dropEndWhile_append_of_pos h

theorem trimStart_append_of_not_blank (h : ¬ Blank before) :
    trimStart (before ++ cs) = trimStart before ++ cs := by
  have hne : (before.dropWhile isBlank).isEmpty = false := by
    rwa [List.isEmpty_eq_false_iff, Ne, List.dropWhile_eq_nil_iff]
  rw [trimStart, List.dropWhile_append, hne, if_neg Bool.false_ne_true, trimStart]

theorem trimStart_eq_nil_iff : trimStart cs = [] ↔ Blank cs := List.dropWhile_eq_nil_iff

theorem trimChars_blank_append (h : Blank before) : trimChars (before ++ cs) = trimChars cs := by
  rw [trimChars, trimStart_append_blank h, trimChars]

theorem trimChars_append_blank (h : Blank after) : trimChars (cs ++ after) = trimChars cs := by
  by_cases hcs : Blank cs
  · rw [trimChars, trimStart_append_blank hcs, trimStart_eq_nil_iff.mpr h, trimChars,
      trimStart_eq_nil_iff.mpr hcs]
  · rw [trimChars, trimStart_append_of_not_blank hcs, trimEnd_append_blank h, trimChars]

theorem trimChars_pad (hbefore : Blank before) (hafter : Blank after) :
    trimChars (before ++ cs ++ after) = trimChars cs := by
  rw [trimChars_append_blank hafter, trimChars_blank_append hbefore]

theorem trimChars_eq_nil_iff : trimChars cs = [] ↔ Blank cs := by
  constructor
  · intro h
    refine trimStart_eq_nil_iff.mp (List.head?_eq_none_iff.mp ?_)
    -- The first character left by `trimStart` would be the first blank for `trimEnd`.
    have hblank : Blank (trimStart cs) := List.rdropWhile_eq_nil_iff.mp h
    cases hhead : (trimStart cs).head? with
    | none => rfl
    | some c =>
      have hc := hblank c (List.mem_of_head? hhead)
      rw [head_trimStart c hhead] at hc
      cases hc
  · intro h
    rw [trimChars, trimStart_eq_nil_iff.mpr h]
    rfl

def Padded (core cs : List Char) : Prop :=
  (∃ before after, cs = before ++ core ++ after ∧ Blank before ∧ Blank after) ∧
    (∀ c ∈ core.head?, isBlank c = false) ∧ ∀ c ∈ core.getLast?, isBlank c = false

theorem exists_eq_trimEnd_append (cs : List Char) :
    ∃ after, cs = trimEnd cs ++ after ∧ Blank after :=
  exists_eq_dropEndWhile_append isBlank cs

theorem exists_eq_append_trimChars (cs : List Char) :
    ∃ before after, cs = before ++ trimChars cs ++ after ∧ Blank before ∧ Blank after := by
  obtain ⟨after, hsplit, hafter⟩ := exists_eq_trimEnd_append (trimStart cs)
  refine ⟨cs.takeWhile isBlank, after, ?_, fun c hc => List.mem_takeWhile_imp hc, hafter⟩
  rw [List.append_assoc, trimChars, ← hsplit, trimStart, List.takeWhile_append_dropWhile]

theorem trimChars_eq_iff : trimChars cs = core ↔ Padded core cs := by
  constructor
  · rintro rfl
    exact ⟨exists_eq_append_trimChars cs, head_trimChars, last_dropEndWhile⟩
  · rintro ⟨⟨before, after, rfl, hbefore, hafter⟩, hhead, hlast⟩
    rw [trimChars_pad hbefore hafter, trimChars_eq_self hhead hlast]

theorem trimChars_trimStart : trimChars (trimStart cs) = trimChars cs := by
  rw [trimChars, trimStart_eq_self head_trimStart, trimChars]

theorem trimChars_trimEnd : trimChars (trimEnd cs) = trimChars cs := by
  obtain ⟨after, hsplit, hafter⟩ := exists_eq_trimEnd_append cs
  conv_rhs => rw [hsplit]
  rw [trimChars_append_blank hafter]

theorem trimStart_append_cons {c : Char} (hc : isBlank c = false) :
    trimStart (before ++ c :: after) = trimStart before ++ c :: after := by
  rw [trimStart, List.dropWhile_append]
  split
  · rename_i hempty
    rw [trimStart, List.isEmpty_iff.mp hempty, List.dropWhile_cons, hc, if_neg Bool.false_ne_true,
      List.nil_append]
  · rfl

theorem trimEnd_append_cons {c : Char} (hc : isBlank c = false) :
    trimEnd (before ++ c :: after) = before ++ c :: trimEnd after := by
  obtain ⟨blanks, hsplit, hblanks⟩ := exists_eq_trimEnd_append after
  have hlast : ∀ b ∈ (before ++ c :: trimEnd after).getLast?, isBlank b = false := by
    intro b hb
    rw [List.getLast?_append, List.getLast?_cons, Option.some_or] at hb
    cases hend : (trimEnd after).getLast? with
    | none =>
      rw [hend] at hb
      cases hb
      exact hc
    | some d =>
      rw [hend] at hb
      cases hb
      exact last_dropEndWhile d hend
  conv_lhs => rw [hsplit, ← List.cons_append, ← List.append_assoc]
  rw [trimEnd_append_blank hblanks]
  exact dropEndWhile_eq_self_iff.mpr hlast

theorem trimChars_append_cons {c : Char} (hc : isBlank c = false) :
    trimChars (before ++ c :: after) = trimStart before ++ c :: trimEnd after := by
  rw [trimChars, trimStart_append_cons hc, trimEnd_append_cons hc]

theorem takeWhile_run {p : Char → Bool} (hrun : ∀ c ∈ cs, p c = true)
    (hstop : ∀ c ∈ after.head?, p c = false) :
    (cs ++ after).takeWhile p = cs := by
  rw [List.takeWhile_append_of_pos hrun]
  cases after with
  | nil => exact List.append_nil cs
  | cons c after => rw [List.takeWhile_cons_of_neg (by simp [hstop c rfl]), List.append_nil]

theorem dropWhile_run {p : Char → Bool} (hrun : ∀ c ∈ cs, p c = true)
    (hstop : ∀ c ∈ after.head?, p c = false) :
    (cs ++ after).dropWhile p = after := by
  rw [List.dropWhile_append_of_pos hrun]
  cases after with
  | nil => rfl
  | cons c after => exact List.dropWhile_cons_of_neg (by simp [hstop c rfl])

variable {sep : Char}

theorem splitOnce_eq_none_iff : splitOnce sep cs = none ↔ sep ∉ cs := by
  induction cs with
  | nil => simp [splitOnce]
  | cons c cs ih =>
    rw [splitOnce]
    split
    · rename_i hc
      simp [hc]
    · rename_i hc
      rw [Option.map_eq_none_iff, ih, List.mem_cons, not_or, and_iff_right (Ne.symm hc)]

theorem splitOnce_append_cons (h : sep ∉ before) :
    splitOnce sep (before ++ sep :: after) = some (before, after) := by
  induction before with
  | nil => rw [List.nil_append, splitOnce, if_pos rfl]
  | cons c before ih =>
    obtain ⟨hc, hbefore⟩ := not_or.mp (mt List.mem_cons.mpr h)
    rw [List.cons_append, splitOnce, if_neg (Ne.symm hc), ih hbefore]
    rfl

theorem blank_return : Blank ['\r'] := by
  simp [Blank, isBlank]

theorem trimChars_dropReturn : trimChars (dropReturn cs) = trimChars cs := by
  rw [dropReturn]
  split
  · rename_i hlast
    obtain ⟨line, rfl⟩ := List.getLast?_eq_some_iff.mp hlast
    rw [List.dropLast_concat]
    exact (trimChars_append_blank blank_return).symm
  · rfl

theorem splitAll_ne_nil (sep : Char) (cs : List Char) : splitAll sep cs ≠ [] := by
  cases cs with
  | nil => exact List.cons_ne_nil _ _
  | cons c cs =>
    rw [splitAll]
    split
    · exact List.cons_ne_nil _ _
    · split <;> exact List.cons_ne_nil _ _

theorem splitAll_sep (sep : Char) (cs : List Char) :
    splitAll sep (sep :: cs) = [] :: splitAll sep cs := by
  rw [splitAll, if_pos rfl]

theorem splitAll_cons_of_ne {c : Char} (h : c ≠ sep) (cs : List Char) :
    ∃ part parts, splitAll sep cs = part :: parts ∧
    splitAll sep (c :: cs) = (c :: part) :: parts := by
  obtain ⟨part, parts, hparts⟩ := List.exists_cons_of_ne_nil (splitAll_ne_nil sep cs)
  refine ⟨part, parts, hparts, ?_⟩
  rw [splitAll, if_neg h, hparts]

theorem splitAll_append_sep {part : List Char} (h : sep ∉ part) (cs : List Char) :
    splitAll sep (part ++ sep :: cs) = part :: splitAll sep cs := by
  induction part with
  | nil => exact splitAll_sep sep cs
  | cons c part ih =>
    obtain ⟨hc, hpart⟩ := not_or.mp (mt List.mem_cons.mpr h)
    rw [List.cons_append, splitAll, if_neg (Ne.symm hc), ih hpart]

def unlines (lines : List (List Char)) : List Char :=
  lines.flatMap fun line => line ++ ['\n']

theorem trimmed_lines (cs : List Char) :
    ((lines cs).map trimChars).filter (fun line => !line.isEmpty) =
      ((splitAll '\n' cs).map trimChars).filter fun line => !line.isEmpty := by
  rcases List.eq_nil_or_concat' (splitAll '\n' cs) with hnil | ⟨ended, last, hparts⟩
  · exact absurd hnil (splitAll_ne_nil _ _)
  · have hended : (ended.map dropReturn).map trimChars = ended.map trimChars := by
      rw [List.map_map]
      exact List.map_congr_left fun line _ => trimChars_dropReturn
    simp only [lines, hparts, List.dropLast_concat, List.getLast?_concat, Option.toList_some,
      List.map_append, List.filter_append, hended]
    cases last with
    | nil => rfl
    | cons c rest => rfl

/-- A text whose lines are these: each but the last ends with a line feed and perhaps a carriage
return before it, and the last may. -/
inductive Lined : List (List Char) → List Char → Prop
  | nil : Lined [] []
  | last {line : List Char} (hline : '\n' ∉ line) : Lined [line] line
  | feed {line : List Char} {ls : List (List Char)} {cs : List Char} (hline : '\n' ∉ line)
      (h : Lined ls cs) : Lined (line :: ls) (line ++ '\n' :: cs)
  | returnFeed {line : List Char} {ls : List (List Char)} {cs : List Char} (hline : '\n' ∉ line)
      (h : Lined ls cs) : Lined (line :: ls) (line ++ '\r' :: '\n' :: cs)

theorem splitAll_of_notMem {part : List Char} (h : sep ∉ part) : splitAll sep part = [part] := by
  induction part with
  | nil => rfl
  | cons c part ih =>
    obtain ⟨hc, hpart⟩ := not_or.mp (mt List.mem_cons.mpr h)
    rw [splitAll, if_neg (Ne.symm hc), ih hpart]

theorem lines_append_feed {line : List Char} (h : '\n' ∉ line) (cs : List Char) :
    lines (line ++ '\n' :: cs) = dropReturn line :: lines cs := by
  obtain ⟨part, parts, hparts⟩ := List.exists_cons_of_ne_nil (splitAll_ne_nil '\n' cs)
  rw [lines, lines, splitAll_append_sep h, hparts]
  rfl

theorem lines_of_notMem (h : '\n' ∉ cs) : lines cs = [cs].filter fun line => !line.isEmpty := by
  rw [lines, splitAll_of_notMem h]
  rfl

theorem lined_lines (cs : List Char) : Lined (lines cs) cs := by
  by_cases hfeed : '\n' ∈ cs
  · obtain ⟨line, rest, rfl, hline⟩ := List.eq_append_cons_of_mem hfeed
    have hrest := lined_lines rest
    rw [lines_append_feed hline, dropReturn]
    split
    · rename_i hlast
      obtain ⟨kept, rfl⟩ := List.getLast?_eq_some_iff.mp hlast
      rw [List.dropLast_concat, List.append_assoc]
      exact .returnFeed (fun hmem => hline (List.mem_append_left _ hmem)) hrest
    · exact .feed hline hrest
  · rw [lines_of_notMem hfeed]
    cases cs with
    | nil => exact .nil
    | cons c cs => exact .last hfeed
termination_by cs.length
decreasing_by
  subst cs
  simp +arith

theorem Lined.trimmed {ls : List (List Char)} (h : Lined ls cs) :
    ((lines cs).map trimChars).filter (fun line => !line.isEmpty) =
      (ls.map trimChars).filter fun line => !line.isEmpty := by
  rw [trimmed_lines]
  induction h with
  | nil => rfl
  | last hline => rw [splitAll_of_notMem hline]
  | feed hline _ ih =>
    rw [splitAll_append_sep hline, List.map_cons, List.map_cons, List.filter_cons,
      List.filter_cons, ih]
  | @returnFeed line ls cs hline _ ih =>
    have hreturned : '\n' ∉ line ++ ['\r'] := by simp [hline]
    rw [List.append_cons, splitAll_append_sep hreturned, List.map_cons, List.map_cons,
      trimChars_append_blank blank_return, List.filter_cons, List.filter_cons, ih]

theorem lined_unlines {ls : List (List Char)} (h : ∀ line ∈ ls, '\n' ∉ line) :
    Lined ls (unlines ls) := by
  induction ls with
  | nil => exact .nil
  | cons line ls ih =>
    obtain ⟨hline, hlines⟩ := List.forall_mem_cons.mp h
    have hcons : unlines (line :: ls) = line ++ '\n' :: unlines ls := by
      rw [unlines, List.flatMap_cons, List.append_assoc]
      rfl
    rw [hcons]
    exact .feed hline (ih hlines)

def withReturns (cs : List Char) : List Char :=
  cs.flatMap fun c => if c = '\n' then ['\r', '\n'] else [c]

def MayReturn (line line' : List Char) : Prop := line' = line ∨ line' = line ++ ['\r']

theorem MayReturn.trimChars_eq (h : MayReturn cs ds) : trimChars cs = trimChars ds := by
  rcases h with rfl | rfl
  · rfl
  · exact (trimChars_append_blank blank_return).symm

theorem MayReturn.cons (h : MayReturn cs ds) (c : Char) : MayReturn (c :: cs) (c :: ds) :=
  h.imp (congrArg (c :: ·)) (congrArg (c :: ·))

theorem splitAll_withReturns (cs : List Char) :
    List.Forall₂ MayReturn (splitAll '\n' cs) (splitAll '\n' (withReturns cs)) := by
  induction cs with
  | nil => exact .cons (.inl rfl) .nil
  | cons c cs ih =>
    by_cases hc : c = '\n'
    · subst hc
      have hcons : withReturns ('\n' :: cs) = '\r' :: '\n' :: withReturns cs := rfl
      obtain ⟨part, parts, hparts, hreturn⟩ :=
        splitAll_cons_of_ne (by decide : '\r' ≠ '\n') ('\n' :: withReturns cs)
      rw [splitAll_sep] at hparts
      cases hparts
      rw [hcons, splitAll_sep, hreturn]
      exact .cons (.inr rfl) ih
    · have hcons : withReturns (c :: cs) = c :: withReturns cs := by
        rw [withReturns, List.flatMap_cons, if_neg hc]
        rfl
      obtain ⟨part, parts, hparts, hline⟩ := splitAll_cons_of_ne hc cs
      obtain ⟨part', parts', hparts', hline'⟩ := splitAll_cons_of_ne hc (withReturns cs)
      rw [hparts, hparts'] at ih
      rw [hcons, hline, hline']
      cases ih with
      | cons hpart hrest => exact .cons (hpart.cons c) hrest

theorem map_trimChars_withReturns (cs : List Char) :
    (splitAll '\n' (withReturns cs)).map trimChars = (splitAll '\n' cs).map trimChars := by
  have hlines := splitAll_withReturns cs
  generalize splitAll '\n' cs = lines at hlines ⊢
  generalize splitAll '\n' (withReturns cs) = lines' at hlines ⊢
  induction hlines with
  | nil => rfl
  | cons hline _ ih => rw [List.map_cons, List.map_cons, ih, hline.trimChars_eq]

theorem trimmed_lines_withReturns (cs : List Char) :
    ((lines (withReturns cs)).map trimChars).filter (fun line => !line.isEmpty) =
      ((lines cs).map trimChars).filter fun line => !line.isEmpty := by
  rw [trimmed_lines, trimmed_lines, map_trimChars_withReturns]

end MailAudit.Text
