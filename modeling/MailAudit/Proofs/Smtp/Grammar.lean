import MailAudit.Proofs.Smtp.Line

namespace MailAudit.Smtp.Reply

open Text

inductive LineForm : List Char → Nat → Bool → List Char → Prop
  | bare {a b c : Char} (hdigits : [a, b, c].all Decimal.isDigit = true) :
      LineForm [a, b, c] (Decimal.value [a, b, c]) true []
  | final {a b c : Char} (hdigits : [a, b, c].all Decimal.isDigit = true) (text : List Char) :
      LineForm (a :: b :: c :: ' ' :: text) (Decimal.value [a, b, c]) true text
  | continued {a b c : Char} (hdigits : [a, b, c].all Decimal.isDigit = true) (text : List Char) :
      LineForm (a :: b :: c :: '-' :: text) (Decimal.value [a, b, c]) false text

theorem parseLine_eq_ok_iff {line text : List Char} {code : Nat} {last : Bool} :
    parseLine line = .ok (code, last, text) ↔ LineForm line code last text := by
  constructor
  · intro h
    simp only [parseLine] at h
    split at h
    · split at h
      · rename_i hdigits
        split at h
        · cases h
          exact .bare hdigits
        · cases h
          exact .final hdigits _
        · cases h
          exact .continued hdigits _
        · cases h
      · cases h
    · cases h
  · intro h
    cases h with
    | bare hdigits => simp only [parseLine, hdigits, if_true]
    | final hdigits => simp only [parseLine, hdigits, if_true]
    | continued hdigits => simp only [parseLine, hdigits, if_true]

inductive Spells (code : Nat) : List (List UInt8) → List String → Prop
  | last {raw : List UInt8} {text : String} (hline : IsLine raw)
      (hform : LineForm (lineText raw) code true text.toList) : Spells code [raw] [text]
  | more {raw : List UInt8} {text : String} {raws : List (List UInt8)} {texts : List String}
      (hline : IsLine raw) (hform : LineForm (lineText raw) code false text.toList)
      (hrest : Spells code raws texts) : Spells code (raw :: raws) (text :: texts)

structure IsReply (raws : List (List UInt8)) (reply : Reply) : Prop where
  spells : Spells reply.code raws reply.lines
  fits : raws.length ≤ maxLines

section Line

variable {code? : Option Nat} {read : List String} {remaining : Nat} {s t : Stream}
  {raw : List UInt8} {e : ReplyError}

theorem linesFrom_of_rawLine_error (hraw : rawLine s = .error e) :
    linesFrom code? read (remaining + 1) s = .error e := by
  rw [linesFrom, hraw]
  rfl

theorem linesFrom_of_parseLine_error (hraw : rawLine s = .ok (raw, t))
    (hparse : parseLine (lineText raw) = .error e) :
    linesFrom code? read (remaining + 1) s = .error e := by
  simp only [linesFrom, hraw, bind, Except.bind, hparse]

theorem linesFrom_of_codeChanged {first code : Nat} {last : Bool} {text : List Char}
    (hraw : rawLine s = .ok (raw, t)) (hparse : parseLine (lineText raw) = .ok (code, last, text))
    (hchanged : code?.filter (· != code) = some first) :
    linesFrom code? read (remaining + 1) s = .error (.codeChanged first code) := by
  simp only [linesFrom, hraw, bind, Except.bind, hparse, hchanged]

theorem linesFrom_of_sameCode {code : Nat} {last : Bool} {text : List Char}
    (hraw : rawLine s = .ok (raw, t)) (hparse : parseLine (lineText raw) = .ok (code, last, text))
    (hsame : code?.filter (· != code) = none) :
    linesFrom code? read (remaining + 1) s =
      if last then .ok (⟨code, read ++ [String.ofList text]⟩, t)
      else linesFrom (some code) (read ++ [String.ofList text]) remaining t := by
  simp only [linesFrom, hraw, bind, Except.bind, hparse, hsame]

end Line

theorem filter_ne_eq_none_iff {code? : Option Nat} {code : Nat} :
    code?.filter (· != code) = none ↔ ∀ first ∈ code?, first = code := by
  simp [Option.filter_eq_none_iff]

-- By induction on the number of lines that are still allowed.
theorem spells_of_linesFrom {code? : Option Nat} {read : List String} {remaining : Nat}
    {s t : Stream} {reply : Reply} (h : linesFrom code? read remaining s = .ok (reply, t)) :
    ∃ raws texts, Spells reply.code raws texts ∧ raws.length ≤ remaining ∧
      reply.lines = read ++ texts ∧ (∀ first ∈ code?, first = reply.code) ∧
      s.remaining = raws.flatten ++ t.remaining ∧ t.ending = s.ending := by
  induction remaining generalizing code? read s with
  | zero => cases h
  | succ remaining ih =>
      cases hraw : rawLine s with
      | error e =>
          rw [linesFrom_of_rawLine_error hraw] at h
          cases h
      | ok found =>
          obtain ⟨raw, u⟩ := found
          obtain ⟨hline, hbytes, hending⟩ := of_rawLine_eq_ok hraw
          cases hparse : parseLine (lineText raw) with
          | error e =>
              rw [linesFrom_of_parseLine_error hraw hparse] at h
              cases h
          | ok parsed =>
              obtain ⟨code, last, text⟩ := parsed
              have hform : LineForm (lineText raw) code last (String.ofList text).toList :=
                String.toList_ofList ▸ parseLine_eq_ok_iff.mp hparse
              cases hfilter : code?.filter (· != code) with
              | some first =>
                  rw [linesFrom_of_codeChanged hraw hparse hfilter] at h
                  cases h
              | none =>
                  rw [linesFrom_of_sameCode hraw hparse hfilter] at h
                  have hcode := filter_ne_eq_none_iff.mp hfilter
                  cases last with
                  | true =>
                      cases h
                      exact ⟨[raw], [String.ofList text], .last hline hform, by simp, rfl, hcode,
                        by simpa using hbytes, hending⟩
                  | false =>
                      obtain ⟨raws, texts, hspells, hcount, hlines, hsame, hrest, hend⟩ := ih h
                      obtain rfl : code = reply.code := hsame code rfl
                      refine ⟨raw :: raws, String.ofList text :: texts, .more hline hform hspells,
                        by simpa using hcount, by simpa using hlines, hcode, ?_, hend.trans hending⟩
                      rw [hbytes, hrest, List.flatten_cons, List.append_assoc]

theorem linesFrom_of_spells {code : Nat} {raws : List (List UInt8)} {texts : List String}
    (h : Spells code raws texts) {code? : Option Nat} (hcode : ∀ first ∈ code?, first = code)
    (read : List String) {remaining : Nat} (hcount : raws.length ≤ remaining) {s : Stream}
    {rest : List UInt8} (hbytes : s.remaining = raws.flatten ++ rest) :
    ∃ t, linesFrom code? read remaining s = .ok (⟨code, read ++ texts⟩, t) ∧
      t.remaining = rest ∧ t.ending = s.ending := by
  have hfilter := filter_ne_eq_none_iff.mpr hcode
  induction h generalizing code? read remaining s with
  | @last raw text hline hform =>
      cases remaining with
      | zero => cases hcount
      | succ remaining =>
          rw [List.flatten_singleton] at hbytes
          obtain ⟨t, hraw, hleft⟩ := rawLine_eq_ok hline hbytes
          refine ⟨t, ?_, hleft⟩
          rw [linesFrom_of_sameCode hraw (parseLine_eq_ok_iff.mpr hform) hfilter, if_pos rfl,
            String.ofList_toList]
  | @more raw text raws texts hline hform hrest ih =>
      cases remaining with
      | zero => cases hcount
      | succ remaining =>
          rw [List.flatten_cons, List.append_assoc] at hbytes
          obtain ⟨u, hraw, hleft, hending⟩ := rawLine_eq_ok hline hbytes
          have hsame : ∀ first ∈ some code, first = code := by simp
          obtain ⟨t, hread, hrest, hend⟩ :=
            ih hsame (read ++ [text]) (Nat.le_of_succ_le_succ hcount)
            hleft (filter_ne_eq_none_iff.mpr hsame)
          refine ⟨t, ?_, hrest, hend.trans hending⟩
          rw [linesFrom_of_sameCode hraw (parseLine_eq_ok_iff.mpr hform) hfilter,
            if_neg Bool.false_ne_true, String.ofList_toList, hread, List.append_assoc,
            List.singleton_append]

theorem isReply_of_read {s t : Stream} {reply : Reply} (h : read s = .ok (reply, t)) :
    ∃ raws, IsReply raws reply ∧ s.remaining = raws.flatten ++ t.remaining ∧
      t.ending = s.ending := by
  obtain ⟨raws, texts, hspells, hcount, hlines, -, hleft⟩ := spells_of_linesFrom h
  rw [List.nil_append] at hlines
  exact ⟨raws, ⟨hlines ▸ hspells, hcount⟩, hleft⟩

theorem read_of_isReply {s : Stream} {raws : List (List UInt8)} {reply : Reply}
    (h : IsReply raws reply) {rest : List UInt8} (hbytes : s.remaining = raws.flatten ++ rest) :
    ∃ t, read s = .ok (reply, t) ∧ t.remaining = rest ∧ t.ending = s.ending := by
  have hcode : ∀ first ∈ (none : Option Nat), first = reply.code := by simp
  exact linesFrom_of_spells h.spells hcode [] h.fits hbytes

def readMany : Nat → Stream → Except ReplyError (List Reply × Stream)
  | 0, s => .ok ([], s)
  | count + 1, s => do
      let (reply, s) ← read s
      let (replies, s) ← readMany count s
      .ok (reply :: replies, s)

theorem readMany_of_isReply {replies : List (List (List UInt8) × Reply)}
    (h : ∀ r ∈ replies, IsReply r.1 r.2) {s : Stream} {rest : List UInt8}
    (hbytes : s.remaining = (replies.map fun r => r.1.flatten).flatten ++ rest) :
    ∃ t, readMany replies.length s = .ok (replies.map (·.2), t) ∧
      t.remaining = rest ∧ t.ending = s.ending := by
  induction replies generalizing s with
  | nil => exact ⟨s, rfl, hbytes, rfl⟩
  | cons r replies ih =>
      rw [List.map_cons, List.flatten_cons, List.append_assoc] at hbytes
      obtain ⟨u, hread, hleft, hending⟩ := read_of_isReply (h r List.mem_cons_self) hbytes
      obtain ⟨t, hmany, hrest, hend⟩ := ih (fun q hq => h q (List.mem_cons_of_mem r hq)) hleft
      refine ⟨t, ?_, hrest, hend.trans hending⟩
      simp only [List.length_cons, readMany, hread, bind, Except.bind, hmany, List.map_cons]

theorem read_accepts_exactly_replies (s : Stream) :
    (∀ (reply : Reply) (rest : List UInt8),
      (∃ t, read s = .ok (reply, t) ∧ t.remaining = rest ∧ t.ending = s.ending) ↔
        ∃ raws, IsReply raws reply ∧ s.remaining = raws.flatten ++ rest) ∧
    ∀ (replies : List (List (List UInt8) × Reply)) (rest : List UInt8),
      (∀ r ∈ replies, IsReply r.1 r.2) →
      s.remaining = (replies.map fun r => r.1.flatten).flatten ++ rest →
      ∃ t, readMany replies.length s = .ok (replies.map (·.2), t) ∧
        t.remaining = rest ∧ t.ending = s.ending := by
  refine ⟨fun reply rest => ⟨?_, ?_⟩,
    fun _ _ hreplies hbytes => readMany_of_isReply hreplies hbytes⟩
  · rintro ⟨t, hread, rfl, -⟩
    obtain ⟨raws, hreply, hbytes, -⟩ := isReply_of_read hread
    exact ⟨raws, hreply, hbytes⟩
  · rintro ⟨raws, hreply, hbytes⟩
    exact read_of_isReply hreply hbytes

-- "250-", a byte that starts no character, and "250 ok" on a line without a carriage return.
theorem isReply_broken_character :
    IsReply [[50, 53, 48, 45, 0xFF, 13, 10], [50, 53, 48, 32, 111, 107, 10]]
      ⟨250, ["\uFFFD", "ok"]⟩ where
  spells := by
    have hfirst : LineForm (lineText [50, 53, 48, 45, 0xFF, 13, 10]) 250 false "\uFFFD".toList := by
      have htext : "\uFFFD".toList = ['\uFFFD'] := by decide
      have hline : lineText [50, 53, 48, 45, 0xFF, 13, 10] = ['2', '5', '0', '-', '\uFFFD'] := by
        rw [lineText, Utf8.decodeLossy, String.toList_ofList]
        decide
      rw [hline, htext]
      exact .continued (by decide) ['\uFFFD']
    have hlast : LineForm (lineText [50, 53, 48, 32, 111, 107, 10]) 250 true "ok".toList := by
      have htext : "ok".toList = ['o', 'k'] := by decide
      have hline : lineText [50, 53, 48, 32, 111, 107, 10] = ['2', '5', '0', ' ', 'o', 'k'] := by
        rw [lineText, Utf8.decodeLossy, String.toList_ofList]
        decide
      rw [hline, htext]
      exact .final (by decide) ['o', 'k']
    exact .more ⟨⟨[50, 53, 48, 45, 0xFF, 13], by decide, rfl⟩, by decide⟩ hfirst
      (.last ⟨⟨[50, 53, 48, 32, 111, 107], by decide, rfl⟩, by decide⟩ hlast)
  fits := by decide

theorem isReply_bare : IsReply [[50, 50, 48, 13, 10]] ⟨220, [""]⟩ where
  spells := by
    have hline : lineText [50, 50, 48, 13, 10] = ['2', '2', '0'] := by
      rw [lineText, Utf8.decodeLossy, String.toList_ofList]
      decide
    refine .last ⟨⟨[50, 50, 48, 13], by decide, rfl⟩, by decide⟩ ?_
    rw [hline]
    exact .bare (by decide)
  fits := by decide

theorem pieces_of_two_replies_are_read :
    (∀ r ∈ [([[50, 53, 48, 45, 0xFF, 13, 10], [50, 53, 48, 32, 111, 107, 10]],
        (⟨250, ["\uFFFD", "ok"]⟩ : Reply)), ([[50, 50, 48, 13, 10]], ⟨220, [""]⟩)],
        IsReply r.1 r.2) ∧
    ∃ t, readMany 2 ⟨[50, 53, 48, 45], [[0xFF, 13], [10, 50, 53, 48, 32, 111, 107, 10, 50],
        [50, 48, 13, 10, 88]], .closed⟩ = .ok ([⟨250, ["\uFFFD", "ok"]⟩, ⟨220, [""]⟩], t) ∧
      t.remaining = [88] ∧ t.ending = .closed := by
  have hreplies : ∀ r ∈ [([[50, 53, 48, 45, 0xFF, 13, 10], [50, 53, 48, 32, 111, 107, 10]],
      (⟨250, ["\uFFFD", "ok"]⟩ : Reply)), ([[50, 50, 48, 13, 10]], ⟨220, [""]⟩)],
      IsReply r.1 r.2 := by
    simp only [List.mem_cons, List.not_mem_nil, or_false, forall_eq_or_imp, forall_eq]
    exact ⟨isReply_broken_character, isReply_bare⟩
  exact ⟨hreplies, (read_accepts_exactly_replies ⟨[50, 53, 48, 45], [[0xFF, 13],
    [10, 50, 53, 48, 32, 111, 107, 10, 50], [50, 48, 13, 10, 88]], .closed⟩).2 _ _ hreplies rfl⟩

end MailAudit.Smtp.Reply
