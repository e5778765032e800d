import MailAudit.Proofs.Smtp.Line
import MailAudit.Smtp.Reading
import Mathlib.Data.Seq.Basic

/-! The reader against a peer that may go on forever. Every step takes in bytes or ends a line, and
the limits leave room for so many of both. The bytes that come after the answer make no difference
to it. -/

namespace MailAudit.Smtp

namespace Reply

section Step

variable {p : Peer} {r r' : Reading} {line buffer whole rest : List UInt8} {e : ReplyError}

theorem complete_eq_error (h : complete line buffer = .error e) : e = .lineTooLong := by
  rw [complete] at h
  split at h <;> split at h <;> cases h <;> rfl

theorem parseLine_eq_error {line : List Char} (h : parseLine line = .error e) :
    e = .malformedLine (String.ofList line) := by
  simp only [parseLine] at h
  split at h
  · split at h
    · split at h <;> cases h
      rfl
    · cases h
      rfl
  · cases h
    rfl

theorem complete_eq_none (h : complete line buffer = .ok none) :
    (line ++ buffer).length ≤ maxLineBytes := by
  rw [complete] at h
  split at h
  · split at h <;> cases h
  · split at h
    · cases h
    · rename_i hfits
      rw [List.length_append]
      exact Nat.le_of_not_lt hfits

theorem complete_eq_some (h : complete line buffer = .ok (some (whole, rest))) :
    whole.length ≤ maxLineBytes ∧ line.length < whole.length ∧ whole ++ rest = line ++ buffer := by
  rw [complete] at h
  split at h
  · rename_i last rest' hsplit
    split at h
    · cases h
    · rename_i hfits
      cases h
      obtain ⟨body, -, rfl, hbytes⟩ := splitLine_eq_some_iff.mp hsplit
      rw [List.length_append, hbytes, List.append_assoc]
      exact ⟨Nat.le_of_not_lt hfits, by simp, rfl⟩
  · split at h <;> cases h

theorem Reading.fill?_eq_some (h : r.fill? p = some r') :
    (r.buffer ≠ [] ∧ r' = r) ∨
      (r.buffer = [] ∧ ∃ piece, p.pieces.get? r.pulled = some piece ∧
        r' = { r with buffer := piece, pulled := r.pulled + 1 }) := by
  rw [Reading.fill?] at h
  split at h
  · rename_i hbuffer
    obtain ⟨piece, hpiece, rfl⟩ := Option.map_eq_some_iff.mp h
    exact .inr ⟨hbuffer, piece, hpiece, rfl⟩
  · rename_i hbuffer
    cases h
    exact .inl ⟨hbuffer, rfl⟩

theorem Reading.fill?_eq_none (h : r.fill? p = none) :
    r.buffer = [] ∧ p.pieces.TerminatedAt r.pulled := by
  rw [Reading.fill?] at h
  split at h
  · rename_i hbuffer
    exact ⟨hbuffer, Option.map_eq_none_iff.mp h⟩
  · cases h

theorem Reading.fill?_buffer_ne_nil (h : r.fill? p = some r') : r'.buffer ≠ [] := by
  obtain ⟨hbuffer, rfl⟩ | ⟨-, piece, hpiece, rfl⟩ := Reading.fill?_eq_some h
  · exact hbuffer
  · exact p.ne_nil hpiece

structure Extends (r : Reading) (line rest : List UInt8) : Prop where
  fits : line.length ≤ maxLineBytes
  longer : r.buffer ≠ [] → r.line.length < line.length
  bytes_eq : line ++ rest = r.line ++ r.buffer

theorem State.absorb_cases (r : Reading) :
    absorb r = answers (.error .lineTooLong) r ∨
      ∃ line rest, Extends r line rest ∧
        (absorb r = reads (r.hold line rest) ∨ absorb r = parses (r.hold line rest)) := by
  rw [absorb]
  split
  · rename_i e hcomplete
    obtain rfl := complete_eq_error hcomplete
    exact .inl rfl
  · rename_i hcomplete
    refine .inr ⟨_, _, ⟨complete_eq_none hcomplete, fun hbuffer => ?_, List.append_nil _⟩, .inl rfl⟩
    rw [List.length_append]
    exact Nat.lt_add_of_pos_right (List.length_pos_iff.mpr hbuffer)
  · rename_i whole rest hcomplete
    obtain ⟨hfits, hlonger, hbytes⟩ := complete_eq_some hcomplete
    exact .inr ⟨_, _, ⟨hfits, fun _ => hlonger, hbytes⟩, .inr rfl⟩

theorem State.parse_cases (r : Reading) :
    (∃ e, (∀ ending : Ending, e ≠ ending.replyError) ∧ parse r = answers (.error e) r) ∨
      ∃ code text, parse r = answers (.ok ⟨code, r.texts ++ [String.ofList text]⟩) r ∨
        parse r = next (r.endLine code text) := by
  rw [parse]
  split
  · rename_i e hparse
    obtain rfl := parseLine_eq_error hparse
    exact .inl ⟨.malformedLine _, nofun, rfl⟩
  · rename_i code last text hparse
    split
    · exact .inl ⟨.codeChanged _ _, nofun, rfl⟩
    · refine .inr ⟨code, text, ?_⟩
      cases last with
      | true => exact .inl rfl
      | false => exact .inr rfl

theorem consumed_endLine (r : Reading) (code : Nat) (text : List Char) :
    (r.endLine code text).consumed = r.consumed :=
  List.append_nil _

theorem length_endLine (r : Reading) (code : Nat) (text : List Char) :
    (r.endLine code text).texts.length = r.texts.length + 1 := by
  rw [Reading.endLine, List.length_append, List.length_singleton]

end Step

structure Kept (p : Peer) (buffer : List UInt8) (r : Reading) : Prop where
  line_le : r.line.length ≤ maxLineBytes
  earlier_le : r.earlier.length ≤ r.texts.length * maxLineBytes
  consumed_le : r.consumed.length ≤ maxLines * maxLineBytes
  bytes_eq : r.consumed ++ r.buffer = buffer ++ (p.pieces.take r.pulled).flatten

structure Justified (p : Peer) (r : Reading) (answer : Except ReplyError Reply) : Prop where
  terminated : answer = .error p.ending.replyError → r.buffer = [] ∧ p.pieces.TerminatedAt r.pulled
  lines_pos : ∀ reply, answer = .ok reply → 1 ≤ reply.lines.length
  lines_le : ∀ reply, answer = .ok reply → reply.lines.length ≤ maxLines

def Sound (p : Peer) (buffer : List UInt8) : State → Prop
  | .reads r | .parses r => Kept p buffer r ∧ r.texts.length < maxLines
  | .answers answer r => Kept p buffer r ∧ Justified p r answer

theorem Sound.kept {p : Peer} {buffer : List UInt8} {s : State} (h : Sound p buffer s) :
    Kept p buffer s.reading := by
  cases s <;> exact h.1

section Run

variable {p : Peer} {buffer : List UInt8} {r r' : Reading} {s : State} {e : ReplyError}

theorem justified_of_error (he : ∀ ending : Ending, e ≠ ending.replyError) :
    Justified p r (.error e) where
  terminated h := absurd (Except.error.inj h) (he p.ending)
  lines_pos := nofun
  lines_le := nofun

theorem take_succ_of_get? {pieces : Stream'.Seq (List UInt8)} {n : Nat} {piece : List UInt8}
    (h : pieces.get? n = some piece) : pieces.take (n + 1) = pieces.take n ++ [piece] := by
  induction n generalizing pieces with
  | zero =>
    rw [Stream'.Seq.head_eq_some h]
    rfl
  | succ n ih =>
    cases pieces with
    | nil => cases h
    | cons first pieces =>
      rw [Stream'.Seq.take_succ_cons, Stream'.Seq.take_succ_cons, ih h]
      rfl

theorem Kept.fill (h : Kept p buffer r) (hfill : r.fill? p = some r') : Kept p buffer r' := by
  obtain ⟨-, rfl⟩ | ⟨hbuffer, piece, hpiece, rfl⟩ := Reading.fill?_eq_some hfill
  · exact h
  · refine ⟨h.line_le, h.earlier_le, h.consumed_le, ?_⟩
    have hbytes := h.bytes_eq
    rw [hbuffer, List.append_nil] at hbytes
    change r.consumed ++ piece = _
    rw [take_succ_of_get? hpiece, List.flatten_append, List.flatten_singleton,
      ← List.append_assoc, ← hbytes]

theorem Kept.hold (h : Kept p buffer r) (hroom : r.texts.length < maxLines) {line rest : List UInt8}
    (hextends : Extends r line rest) : Kept p buffer (r.hold line rest) where
  line_le := hextends.fits
  earlier_le := h.earlier_le
  consumed_le := by
    have hlines : (r.texts.length + 1) * maxLineBytes ≤ maxLines * maxLineBytes :=
      Nat.mul_le_mul_right maxLineBytes hroom
    rw [Nat.succ_mul] at hlines
    rw [Reading.consumed, List.length_append]
    exact (Nat.add_le_add h.earlier_le hextends.fits).trans hlines
  bytes_eq := by
    have hsent := h.bytes_eq
    rw [Reading.consumed, List.append_assoc, ← hextends.bytes_eq, ← List.append_assoc] at hsent
    exact hsent

theorem Kept.endLine (h : Kept p buffer r) (code : Nat) (text : List Char) :
    Kept p buffer (r.endLine code text) where
  line_le := Nat.zero_le _
  earlier_le := by
    rw [length_endLine, Nat.succ_mul, Reading.endLine, List.length_append]
    exact Nat.add_le_add h.earlier_le h.line_le
  consumed_le := by
    rw [consumed_endLine]
    exact h.consumed_le
  bytes_eq := by
    rw [consumed_endLine]
    exact h.bytes_eq

theorem sound_next (h : Kept p buffer r) (hcount : r.texts.length ≤ maxLines) :
    Sound p buffer (.next r) := by
  rw [State.next]
  split
  · exact ⟨h, justified_of_error nofun⟩
  · rename_i hne
    exact ⟨h, Nat.lt_of_le_of_ne hcount hne⟩

theorem sound_absorb (h : Kept p buffer r) (hroom : r.texts.length < maxLines) :
    Sound p buffer (.absorb r) := by
  obtain habsorb | ⟨line, rest, hextends, habsorb | habsorb⟩ :=
    State.absorb_cases r <;> rw [habsorb]
  · exact ⟨h, justified_of_error nofun⟩
  · exact ⟨h.hold hroom hextends, hroom⟩
  · exact ⟨h.hold hroom hextends, hroom⟩

theorem sound_parse (h : Kept p buffer r) (hroom : r.texts.length < maxLines) :
    Sound p buffer (.parse r) := by
  obtain ⟨e, he, hparse⟩ | ⟨code, text, hparse | hparse⟩ := State.parse_cases r <;> rw [hparse]
  · exact ⟨h, justified_of_error he⟩
  · have hcount : (r.texts ++ [String.ofList text]).length = r.texts.length + 1 :=
      length_endLine r code text
    refine ⟨h, nofun, ?_, ?_⟩ <;> rintro reply ⟨⟩ <;> rw [hcount]
    · exact Nat.succ_pos _
    · exact hroom
  · exact sound_next (h.endLine code text) ((length_endLine r code text).trans_le hroom)

theorem sound_step (h : Sound p buffer s) : Sound p buffer (s.step p) := by
  cases s with
  | reads r =>
    obtain ⟨hkept, hroom⟩ := h
    rw [State.step]
    split
    · rename_i hfill
      exact ⟨hkept, fun _ => Reading.fill?_eq_none hfill, nofun, nofun⟩
    · rename_i r' hfill
      refine sound_absorb (hkept.fill hfill) ?_
      obtain ⟨-, rfl⟩ | ⟨-, piece, -, rfl⟩ := Reading.fill?_eq_some hfill <;> exact hroom
  | parses r => exact sound_parse h.1 h.2
  | answers answer r => exact h

theorem sound_after (p : Peer) (buffer : List UInt8) (count : Nat) :
    Sound p buffer (.after p buffer count) := by
  induction count with
  | zero =>
    have hkept : Kept p buffer (.start buffer) :=
      ⟨Nat.zero_le _, Nat.zero_le _, Nat.zero_le _, (List.append_nil buffer).symm⟩
    exact sound_next hkept (Nat.zero_le _)
  | succ count ih =>
    rw [State.after, Function.iterate_succ_apply']
    exact sound_step ih

namespace State

def progress (s : State) : Nat := s.reading.consumed.length + s.reading.texts.length

def Final (s : State) : Prop := ∃ answer r, s = answers answer r

end State

theorem progress_absorb (h : r.buffer ≠ []) :
    (State.absorb r).Final ∨ (State.reads r).progress < (State.absorb r).progress := by
  have hheld {line rest : List UInt8} (hextends : Extends r line rest) :
      r.consumed.length + r.texts.length < (r.hold line rest).consumed.length + r.texts.length := by
    rw [Reading.consumed, Reading.consumed, List.length_append, List.length_append]
    exact Nat.add_lt_add_right (Nat.add_lt_add_left (hextends.longer h) _) _
  obtain habsorb | ⟨line, rest, hextends, habsorb | habsorb⟩ :=
    State.absorb_cases r <;> rw [habsorb]
  · exact .inl ⟨_, _, rfl⟩
  · exact .inr (hheld hextends)
  · exact .inr (hheld hextends)

theorem progress_parse (r : Reading) :
    (State.parse r).Final ∨ (State.parses r).progress < (State.parse r).progress := by
  obtain ⟨e, he, hparse⟩ | ⟨code, text, hparse | hparse⟩ := State.parse_cases r <;> rw [hparse]
  · exact .inl ⟨_, _, rfl⟩
  · exact .inl ⟨_, _, rfl⟩
  · rw [State.next]
    split
    · exact .inl ⟨_, _, rfl⟩
    · refine .inr ?_
      rw [State.progress, State.progress, State.reading, State.reading, consumed_endLine,
        length_endLine]
      exact Nat.lt_succ_self _

theorem progress_step (s : State) : (s.step p).Final ∨ s.progress < (s.step p).progress := by
  cases s with
  | reads r =>
    rw [State.step]
    split
    · exact .inl ⟨_, _, rfl⟩
    · rename_i r' hfill
      have hsame : (State.reads r).progress = (State.reads r').progress := by
        obtain ⟨-, rfl⟩ | ⟨-, piece, -, rfl⟩ := Reading.fill?_eq_some hfill <;> rfl
      rw [hsame]
      exact progress_absorb (Reading.fill?_buffer_ne_nil hfill)
  | parses r => exact progress_parse r
  | answers answer r => exact .inl ⟨answer, r, rfl⟩

theorem final_or_le_progress (p : Peer) (buffer : List UInt8) (count : Nat) :
    (State.after p buffer count).Final ∨ count ≤ (State.after p buffer count).progress := by
  induction count with
  | zero => exact .inr (Nat.zero_le _)
  | succ count ih =>
    rw [State.after, Function.iterate_succ_apply']
    obtain ⟨answer, r, hfinal⟩ | hle := ih
    · rw [← State.after, hfinal]
      exact .inl ⟨answer, r, rfl⟩
    · exact (progress_step _).imp_right hle.trans_lt

theorem final_of_le {count : Nat} (hcount : maxLines * (maxLineBytes + 1) ≤ count) :
    (State.after p buffer count).Final := by
  have hbound (r : Reading) (hkept : Kept p buffer r) (hroom : r.texts.length < maxLines) :
      r.consumed.length + r.texts.length < count := by
    rw [Nat.mul_succ] at hcount
    exact (Nat.add_lt_add_of_le_of_lt hkept.consumed_le hroom).trans_le hcount
  have hsound := sound_after p buffer count
  obtain hfinal | hle := final_or_le_progress p buffer count
  · exact hfinal
  · cases hstate : State.after p buffer count with
    | reads r | parses r =>
      rw [hstate] at hsound hle
      exact absurd hle (Nat.not_le.mpr (hbound r hsound.1 hsound.2))
    | answers answer r => exact ⟨answer, r, rfl⟩

theorem exists_answer (p : Peer) (buffer : List UInt8) :
    ∃ n ≤ maxLines * (maxLineBytes + 1), ∃ answer r, State.after p buffer n = .answers answer r :=
  ⟨_, Nat.le_refl _, final_of_le (Nat.le_refl _)⟩

namespace Reading

def rest (p : Peer) (count : Nat) (r : Reading) : Stream :=
  ⟨r.buffer, (p.pieces.take count).drop r.pulled, p.ending⟩

end Reading

def afterLine (r : Reading) (found : List UInt8 × Stream) : Except ReplyError (Reply × Stream) := do
  let (code, last, text) ← parseLine (lineText found.1)
  match r.code?.filter (· != code) with
  | some first => .error (.codeChanged first code)
  | none =>
    let texts := r.texts ++ [String.ofList text]
    if last then .ok (⟨code, texts⟩, found.2)
    else linesFrom (some code) texts (maxLines - (r.texts.length + 1)) found.2

def finish (p : Peer) (count : Nat) : State → Except ReplyError (Reply × Stream)
  | .reads r => lineFrom p.ending r.line r.buffer (r.rest p count).arriving >>= afterLine r
  | .parses r => afterLine r (r.line, r.rest p count)
  | .answers answer r => answer.map fun reply => (reply, r.rest p count)

section Line

variable {ending : Ending} {line : List UInt8}

theorem complete_nil_right (hle : line.length ≤ maxLineBytes) : complete line [] = .ok none := by
  rw [complete, splitLine]
  exact if_neg (Nat.not_lt.mpr hle)

theorem lineFrom_nil_nil (hle : line.length ≤ maxLineBytes) :
    lineFrom ending line [] [] = .error ending.replyError := by
  rw [lineFrom, complete_nil_right hle]

theorem lineFrom_nil_cons (hle : line.length ≤ maxLineBytes) (piece : List UInt8)
    (arriving : List (List UInt8)) :
    lineFrom ending line [] (piece :: arriving) = lineFrom ending line piece arriving := by
  rw [lineFrom, complete_nil_right hle, List.append_nil]

theorem lineFrom_eq (buffer : List UInt8) (arriving : List (List UInt8)) :
    lineFrom ending line buffer arriving =
      match complete line buffer with
      | .error e => .error e
      | .ok (some (whole, rest)) => .ok (whole, ⟨rest, arriving, ending⟩)
      | .ok none => lineFrom ending (line ++ buffer) [] arriving := by
  cases hcomplete : complete line buffer with
  | error e => cases arriving <;> rw [lineFrom, hcomplete]
  | ok found =>
    cases found with
    | some found => cases arriving <;> rw [lineFrom, hcomplete]
    | none =>
      have hle := complete_eq_none hcomplete
      cases arriving with
      | nil => rw [lineFrom_nil_nil hle, lineFrom, hcomplete]
      | cons piece arriving => rw [lineFrom_nil_cons hle, lineFrom, hcomplete]

end Line

variable {count : Nat}

theorem finish_next (hline : r.line = []) (hle : r.texts.length ≤ maxLines) :
    finish p count (.next r) =
      linesFrom r.code? r.texts (maxLines - r.texts.length) (r.rest p count) := by
  rw [State.next]
  split
  · rename_i hfull
    rw [hfull, Nat.sub_self]
    rfl
  · rename_i hne
    have hroom : maxLines - r.texts.length = maxLines - (r.texts.length + 1) + 1 := by omega
    rw [hroom, finish, hline]
    rfl

theorem finish_absorb (r : Reading) : finish p count (.absorb r) = finish p count (.reads r) := by
  rw [State.absorb, finish, lineFrom_eq]
  cases complete r.line r.buffer with
  | error e => rfl
  | ok found => cases found <;> rfl

theorem finish_fill (hle : r.line.length ≤ maxLineBytes) (hfill : r.fill? p = some r')
    (hcount : r'.pulled ≤ count) :
    finish p count (.reads r') = finish p count (.reads r) := by
  obtain ⟨-, rfl⟩ | ⟨hbuffer, piece, hpiece, rfl⟩ := Reading.fill?_eq_some hfill
  · rfl
  · have hget : (p.pieces.take count)[r.pulled]? = some piece := by
      have hpulled : r.pulled < count := hcount
      rw [Stream'.Seq.getElem?_take, if_pos hpulled, hpiece]
    have hdrop :
        (r.rest p count).arriving = piece :: (p.pieces.take count).drop (r.pulled + 1) := by
      rw [Reading.rest, List.drop_eq_getElem?_toList_append, hget]
      rfl
    rw [finish, finish, hbuffer, hdrop, lineFrom_nil_cons hle]
    rfl

theorem finish_unfilled (hle : r.line.length ≤ maxLineBytes) (hfill : r.fill? p = none) :
    finish p count (.reads r) = .error p.ending.replyError := by
  obtain ⟨hbuffer, hterminated⟩ := Reading.fill?_eq_none hfill
  have hget : (p.pieces.take count)[r.pulled]? = none := by
    rw [Stream'.Seq.getElem?_take, hterminated, ite_self]
  rw [finish, hbuffer, Reading.rest, List.drop_eq_nil_of_le (List.getElem?_eq_none_iff.mp hget),
    lineFrom_nil_nil hle]
  rfl

theorem finish_parse (hroom : r.texts.length < maxLines) :
    finish p count (.parse r) = finish p count (.parses r) := by
  rw [State.parse, finish, afterLine]
  cases parseLine (lineText r.line) with
  | error e => rfl
  | ok parsed =>
    obtain ⟨code, last, text⟩ := parsed
    simp only [bind, Except.bind]
    cases r.code?.filter (· != code) with
    | some first => rfl
    | none =>
      cases last with
      | true => rfl
      | false =>
        simp only [Bool.false_eq_true, if_false]
        rw [finish_next rfl ((length_endLine r code text).trans_le hroom), length_endLine]
        rfl

theorem pulled_absorb (r : Reading) : (State.absorb r).reading.pulled = r.pulled := by
  obtain habsorb | ⟨line, rest, -, habsorb | habsorb⟩ :=
    State.absorb_cases r <;> rw [habsorb] <;> rfl

theorem pulled_parse (r : Reading) : (State.parse r).reading.pulled = r.pulled := by
  obtain ⟨e, -, hparse⟩ | ⟨code, text, hparse | hparse⟩ := State.parse_cases r <;> rw [hparse]
  · rfl
  · rfl
  · rw [State.next]
    split <;> rfl

theorem pulled_le_step (s : State) : s.reading.pulled ≤ (s.step p).reading.pulled := by
  cases s with
  | reads r =>
    rw [State.step]
    split
    · exact Nat.le_refl _
    · rename_i r' hfill
      rw [pulled_absorb]
      obtain ⟨-, rfl⟩ | ⟨-, piece, -, rfl⟩ := Reading.fill?_eq_some hfill
      · exact Nat.le_refl _
      · exact Nat.le_succ _
  | parses r => exact (pulled_parse r).ge
  | answers answer r => exact Nat.le_refl _

theorem finish_step (h : Sound p buffer s) (hcount : (s.step p).reading.pulled ≤ count) :
    finish p count (s.step p) = finish p count s := by
  cases s with
  | reads r =>
    obtain ⟨hkept, -⟩ := h
    cases hfill : r.fill? p with
    | none =>
      rw [finish_unfilled hkept.line_le hfill]
      simp only [State.step, hfill]
      rfl
    | some r' =>
      simp only [State.step, hfill] at hcount ⊢
      rw [pulled_absorb] at hcount
      exact (finish_absorb r').trans (finish_fill hkept.line_le hfill hcount)
  | parses r => exact finish_parse h.2
  | answers answer r => rfl

-- No step gives pieces back, so that the pieces that are enough for the last one were enough for
-- all before it.
theorem finish_after {n : Nat} (hcount : (State.after p buffer n).reading.pulled ≤ count) :
    finish p count (.after p buffer n) = read ⟨buffer, p.pieces.take count, p.ending⟩ := by
  induction n with
  | zero => exact finish_next (r := .start buffer) rfl (Nat.zero_le _)
  | succ n ih =>
    rw [State.after, Function.iterate_succ_apply', ← State.after] at hcount ⊢
    rw [finish_step (sound_after p buffer n) hcount]
    exact ih ((pulled_le_step _).trans hcount)

end Run

theorem take_ofList {pieces : List (List UInt8)} {count : Nat} (hle : pieces.length ≤ count) :
    (Stream'.Seq.ofList pieces).take count = pieces := by
  ext1 i
  rw [Stream'.Seq.getElem?_take, Stream'.Seq.ofList_get?]
  split
  · rfl
  · rename_i hge
    exact (List.getElem?_eq_none (hle.trans (Nat.le_of_not_lt hge))).symm

theorem read_eq (s : Stream) (h : ∀ piece ∈ s.arriving, piece ≠ []) :
    ∃ n answer r, State.after (.ofStream s h) s.buffer n = .answers answer r ∧
      read s = answer.map fun reply => (reply, ⟨r.buffer, s.arriving.drop r.pulled, s.ending⟩) := by
  obtain ⟨n, -, answer, r, hanswer⟩ := exists_answer (.ofStream s h) s.buffer
  refine ⟨n, answer, r, hanswer, ?_⟩
  have hpulled :
      (State.after (.ofStream s h) s.buffer n).reading.pulled ≤ max s.arriving.length r.pulled := by
    rw [hanswer]
    exact Nat.le_max_right _ _
  have htake : (Peer.ofStream s h).pieces.take (max s.arriving.length r.pulled) = s.arriving :=
    take_ofList (Nat.le_max_left _ _)
  have hread := finish_after hpulled
  rw [hanswer, finish, Reading.rest, htake] at hread
  exact hread.symm

theorem reply_is_read_within_limits (p : Peer) (buffer : List UInt8) :
    (∀ n, (State.after p buffer n).reading.line.length ≤ 1000 ∧
      (State.after p buffer n).reading.consumed.length ≤ 128 * 1000 ∧
      (State.after p buffer n).reading.consumed ++ (State.after p buffer n).reading.buffer =
        buffer ++ (p.pieces.take (State.after p buffer n).reading.pulled).flatten) ∧
    ∃ n ≤ 128 * (1000 + 1), ∃ answer r, State.after p buffer n = .answers answer r ∧
      (answer = .error p.ending.replyError → r.buffer = [] ∧ p.pieces.TerminatedAt r.pulled) ∧
      (∀ reply, answer = .ok reply → 1 ≤ reply.lines.length ∧ reply.lines.length ≤ 128) ∧
      ∀ count ≥ r.pulled, read ⟨buffer, p.pieces.take count, p.ending⟩ =
        answer.map fun reply =>
          (reply, ⟨r.buffer, (p.pieces.take count).drop r.pulled, p.ending⟩) := by
  obtain ⟨n, hn, answer, r, hanswer⟩ := exists_answer p buffer
  refine ⟨fun n => ?_, n, hn, answer, r, hanswer, ?_⟩
  · have hkept := (sound_after p buffer n).kept
    exact ⟨hkept.line_le, hkept.consumed_le, hkept.bytes_eq⟩
  · have hsound := sound_after p buffer n
    have hfinish (count : Nat) (hcount : (State.after p buffer n).reading.pulled ≤ count) :
        finish p count (.after p buffer n) = read ⟨buffer, p.pieces.take count, p.ending⟩ :=
          finish_after hcount
    rw [hanswer] at hsound hfinish
    obtain ⟨-, hjustified⟩ := hsound
    refine ⟨hjustified.terminated, fun reply hreply => ?_,
      fun count hcount => (hfinish count hcount).symm⟩
    exact ⟨hjustified.lines_pos reply hreply, hjustified.lines_le reply hreply⟩

-- "250-x" on one line after the other, without end.
theorem endless_reply_is_given_up :
    ∃ p : Peer, (∀ i, p.pieces.get? i = some [50, 53, 48, 45, 120, 13, 10]) ∧
      ∃ n ≤ 128 * (1000 + 1), ∃ answer r, State.after p [] n = .answers answer r ∧
      answer ≠ .error .silent := by
  let p : Peer :=
    { pieces := .ofStream (.const [50, 53, 48, 45, 120, 13, 10]), ending := .silent
      ne_nil := by rintro i piece ⟨⟩; exact List.cons_ne_nil _ _ }
  obtain ⟨-, n, hn, answer, r, hanswer, hended, -⟩ := reply_is_read_within_limits p []
  refine ⟨p, fun i => rfl, n, hn, answer, r, hanswer, fun hsilent => ?_⟩
  cases (hended hsilent).2

end Reply

end MailAudit.Smtp
