import MailAudit.Smtp.Reply

namespace MailAudit.Smtp

namespace Stream

def gathered (s : Stream) : Stream := ⟨s.remaining, [], s.ending⟩

theorem gathered_eq_mk_iff {s : Stream} {rest : List UInt8} {ending : Ending} :
    s.gathered = ⟨rest, [], ending⟩ ↔ s.remaining = rest ∧ s.ending = ending := by
  simp [gathered]

end Stream

namespace Reply

def gatherRest {α : Type} (read : Except ReplyError (α × Stream)) :
    Except ReplyError (α × Stream) :=
  read.map fun (a, s) => (a, s.gathered)

theorem splitLine_eq_none_iff {bytes : List UInt8} : splitLine bytes = none ↔ lineFeed ∉ bytes := by
  induction bytes with
  | nil => simp [splitLine]
  | cons b bs ih =>
      by_cases hb : b = lineFeed
      · simp [splitLine, hb]
      · simp [splitLine, hb, ih, Ne.symm hb]

theorem splitLine_append_of_notMem {line : List UInt8} (hfree : lineFeed ∉ line)
    (bytes : List UInt8) :
    splitLine (line ++ bytes) = (splitLine bytes).map fun (last, rest) => (line ++ last, rest) := by
  induction line with
  | nil => exact Option.map_id'.symm
  | cons b line ih =>
      obtain ⟨hb, hline⟩ := not_or.mp (mt List.mem_cons.mpr hfree)
      rw [List.cons_append, splitLine, if_neg (Ne.symm hb), ih hline, Option.map_map]
      rfl

theorem splitLine_eq_some_iff {bytes line rest : List UInt8} :
    splitLine bytes = some (line, rest) ↔
      ∃ body, lineFeed ∉ body ∧ line = body ++ [lineFeed] ∧ bytes = line ++ rest := by
  constructor
  · intro h
    induction bytes generalizing line with
    | nil => cases h
    | cons b bs ih =>
        rw [splitLine] at h
        split at h
        · rename_i hb
          cases h
          exact ⟨[], List.not_mem_nil, by rw [hb, List.nil_append], rfl⟩
        · rename_i hb
          obtain ⟨⟨line', rest'⟩, hsplit, heq⟩ := Option.map_eq_some_iff.mp h
          cases heq
          obtain ⟨body, hfree, hline, hbytes⟩ := ih hsplit
          refine ⟨b :: body, ?_, by rw [hline, List.cons_append], by rw [hbytes, List.cons_append]⟩
          exact fun hmem => (List.mem_cons.mp hmem).elim (fun heq => hb heq.symm) hfree
  · rintro ⟨body, hfree, rfl, rfl⟩
    rw [List.append_assoc, splitLine_append_of_notMem hfree]
    rfl

theorem splitLine_append_of_eq_some {bytes line rest : List UInt8}
    (h : splitLine bytes = some (line, rest)) (later : List UInt8) :
    splitLine (bytes ++ later) = some (line, rest ++ later) := by
  obtain ⟨body, hfree, hline, hbytes⟩ := splitLine_eq_some_iff.mp h
  exact splitLine_eq_some_iff.mpr ⟨body, hfree, hline, by rw [hbytes, List.append_assoc]⟩

-- The limit is compared with whole pieces. That is no sooner and no later than byte by byte: a
-- piece without a line feed that is too long can only be continued to a line that is too long as
-- well.
theorem complete_append (line buffer later : List UInt8) :
    complete line (buffer ++ later) =
      match complete line buffer with
      | .error e => .error e
      | .ok (some (whole, rest)) => .ok (some (whole, rest ++ later))
      | .ok none => complete (line ++ buffer) later := by
  cases hsplit : splitLine buffer with
  | some found =>
      obtain ⟨last, rest⟩ := found
      have happend := splitLine_append_of_eq_some hsplit later
      by_cases hlong : maxLineBytes < line.length + last.length
      · simp only [complete, hsplit, happend, hlong, if_true]
      · simp only [complete, hsplit, happend, hlong, if_false]
  | none =>
      have happend := splitLine_append_of_notMem (splitLine_eq_none_iff.mp hsplit) later
      by_cases hlong : maxLineBytes < line.length + buffer.length
      · have hlonger (n : Nat) : maxLineBytes < line.length + (buffer.length + n) := by omega
        cases hlater : splitLine later with
        | none => simp [complete, hsplit, happend, hlater, hlong, hlonger]
        | some found => simp [complete, hsplit, happend, hlater, hlong, hlonger]
      · cases hlater : splitLine later with
        | none => simp [complete, hsplit, happend, hlater, hlong, Nat.add_assoc]
        | some found => simp [complete, hsplit, happend, hlater, hlong, Nat.add_assoc]

def Open (line : List UInt8) : Prop := complete [] line = .ok none

theorem open_nil : Open [] := rfl

theorem Open.complete_append {line : List UInt8} (h : Open line) (buffer : List UInt8) :
    complete [] (line ++ buffer) = complete line buffer := by
  rw [Reply.complete_append, h]
  rfl

-- By induction on the pieces still to come; that the line so far is open carries it.
theorem gatherRest_lineFrom (ending : Ending) {line : List UInt8} (hopen : Open line)
    (buffer : List UInt8) (arriving : List (List UInt8)) :
    gatherRest (lineFrom ending line buffer arriving) =
      lineFrom ending [] (line ++ (buffer ++ arriving.flatten)) [] := by
  induction arriving generalizing line buffer with
  | nil =>
      rw [List.flatten_nil, List.append_nil, lineFrom, lineFrom, hopen.complete_append]
      cases complete line buffer with
      | error e => rfl
      | ok found =>
          cases found with
          | none => rfl
          | some found =>
              obtain ⟨whole, rest⟩ := found
              simp [gatherRest, Except.map, Stream.gathered, Stream.remaining]
  | cons piece arriving ih =>
      have hlater := complete_append line buffer (piece :: arriving).flatten
      rw [lineFrom, lineFrom, hopen.complete_append, hlater]
      cases hbuffer : complete line buffer with
      | error e => rfl
      | ok found =>
          cases found with
          | none =>
              have hnext : Open (line ++ buffer) := (hopen.complete_append buffer).trans hbuffer
              rw [List.flatten_cons]
              have hrest := ih hnext piece
              rw [lineFrom, hnext.complete_append] at hrest
              exact hrest
          | some found =>
              obtain ⟨whole, rest⟩ := found
              simp [gatherRest, Except.map, Stream.gathered, Stream.remaining]

theorem rawLine_gathered (s : Stream) : rawLine s.gathered = gatherRest (rawLine s) :=
  (gatherRest_lineFrom s.ending open_nil s.buffer s.arriving).symm

theorem gatherRest_eq_ok_iff {α : Type} {read : Except ReplyError (α × Stream)} {a : α}
    {u : Stream} :
    gatherRest read = .ok (a, u) ↔ ∃ t, read = .ok (a, t) ∧ t.gathered = u := by
  cases read with
  | error e => simp [gatherRest, Except.map]
  | ok found => simp [gatherRest, Except.map, Prod.ext_iff, and_assoc]

theorem gatherRest_eq_error_iff {α : Type} {read : Except ReplyError (α × Stream)}
    {e : ReplyError} :
    gatherRest read = .error e ↔ read = .error e := by
  cases read with
  | error e => simp [gatherRest, Except.map]
  | ok found => simp [gatherRest, Except.map]

structure IsLine (raw : List UInt8) : Prop where
  ended : ∃ body, lineFeed ∉ body ∧ raw = body ++ [lineFeed]
  fits : raw.length ≤ maxLineBytes

theorem complete_nil_eq_some_iff {bytes raw rest : List UInt8} :
    complete [] bytes = .ok (some (raw, rest)) ↔ IsLine raw ∧ bytes = raw ++ rest := by
  constructor
  · intro h
    rw [complete] at h
    split at h
    · rename_i last rest' hsplit
      split at h
      · cases h
      · rename_i hfits
        cases h
        obtain ⟨body, hfree, hline, hbytes⟩ := splitLine_eq_some_iff.mp hsplit
        exact ⟨⟨⟨body, hfree, hline⟩, by simpa using hfits⟩, hbytes⟩
    · split at h <;> cases h
  · rintro ⟨⟨⟨body, hfree, hline⟩, hfits⟩, hbytes⟩
    have hsplit := splitLine_eq_some_iff.mpr ⟨body, hfree, hline, hbytes⟩
    simp only [complete, hsplit, List.length_nil, Nat.zero_add, Nat.not_lt.mpr hfits, if_false,
      List.nil_append]

theorem rawLine_gathered_eq_ok_iff {s u : Stream} {raw : List UInt8} :
    rawLine s.gathered = .ok (raw, u) ↔
      ∃ rest, IsLine raw ∧ s.remaining = raw ++ rest ∧ u = ⟨rest, [], s.ending⟩ := by
  simp only [rawLine, Stream.gathered, lineFrom]
  constructor
  · intro h
    split at h
    · cases h
    · rename_i whole rest hcomplete
      cases h
      obtain ⟨hline, hbytes⟩ := complete_nil_eq_some_iff.mp hcomplete
      exact ⟨rest, hline, hbytes, rfl⟩
    · cases h
  · rintro ⟨rest, hline, hbytes, rfl⟩
    rw [complete_nil_eq_some_iff.mpr ⟨hline, hbytes⟩]

theorem of_rawLine_eq_ok {s t : Stream} {raw : List UInt8} (h : rawLine s = .ok (raw, t)) :
    IsLine raw ∧ s.remaining = raw ++ t.remaining ∧ t.ending = s.ending := by
  have hgathered : rawLine s.gathered = .ok (raw, t.gathered) := by
    rw [rawLine_gathered, h]
    rfl
  obtain ⟨rest, hline, hbytes, ht⟩ := rawLine_gathered_eq_ok_iff.mp hgathered
  obtain ⟨hrest, hending⟩ := Stream.gathered_eq_mk_iff.mp ht
  exact ⟨hline, hrest ▸ hbytes, hending⟩

theorem rawLine_eq_ok {s : Stream} {raw rest : List UInt8} (hline : IsLine raw)
    (hbytes : s.remaining = raw ++ rest) :
    ∃ t, rawLine s = .ok (raw, t) ∧ t.remaining = rest ∧ t.ending = s.ending := by
  have hgathered := rawLine_gathered_eq_ok_iff.mpr ⟨rest, hline, hbytes, rfl⟩
  rw [rawLine_gathered, gatherRest_eq_ok_iff] at hgathered
  obtain ⟨t, hread, ht⟩ := hgathered
  exact ⟨t, hread, Stream.gathered_eq_mk_iff.mp ht⟩

end Reply

end MailAudit.Smtp
