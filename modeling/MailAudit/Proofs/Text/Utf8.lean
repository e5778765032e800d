import MailAudit.Text.Utf8

namespace MailAudit.Text.Utf8

theorem toNat_byte {n : Nat} (h : n < 256) : (UInt8.ofNat n).toNat = n :=
  UInt8.toNat_ofNat_of_lt' h

theorem Lead.admits_iff {lead : Lead} {b : UInt8} :
    lead.admits b = true ↔ lead.low.toNat ≤ b.toNat ∧ b.toNat ≤ lead.high.toNat := by
  simp only [admits, Bool.and_eq_true, decide_eq_true_eq, UInt8.le_iff_toNat_le]

theorem isContinuation_iff {b : UInt8} :
    isContinuation b = true ↔ 0x80 ≤ b.toNat ∧ b.toNat ≤ 0xBF := by
  simp only [isContinuation, Bool.and_eq_true, decide_eq_true_eq, UInt8.le_iff_toNat_le]
  rfl

theorem not_lt_of_ofByte? {b : UInt8} {lead : Lead} (h : Lead.ofByte? b = some lead) :
    ¬b < 0x80 := by
  intro hlt
  have hlow : b.toNat < 128 := UInt8.lt_iff_toNat_lt.mp hlt
  simp only [Lead.ofByte?, Bool.and_eq_true, decide_eq_true_eq, beq_iff_eq] at h
  repeat' split at h
  all_goals first | omega | cases h

section

variable {b0 b1 b2 b3 : UInt8} {lead : Lead} (hlead : Lead.ofByte? b0 = some lead)
  (h1 : lead.admits b1 = true)

include hlead h1

theorem pieces_two (hf : lead.following = 1) (rest : List UInt8) :
    pieces (b0 :: b1 :: rest) = .char (Char.ofNat (append lead.bits b1)) 2 :: pieces rest := by
  rw [pieces]
  simp only [not_lt_of_ofByte? hlead, if_false, hlead, h1, hf]
  rfl

theorem pieces_three (hf : lead.following = 2) (h2 : isContinuation b2 = true) (rest : List UInt8) :
    pieces (b0 :: b1 :: b2 :: rest) =
      .char (Char.ofNat (append (append lead.bits b1) b2)) 3 :: pieces rest := by
  rw [pieces]
  simp only [not_lt_of_ofByte? hlead, if_false, hlead, h1, hf, h2]
  rfl

theorem pieces_four (hf : lead.following = 3) (h2 : isContinuation b2 = true)
    (h3 : isContinuation b3 = true) (rest : List UInt8) :
    pieces (b0 :: b1 :: b2 :: b3 :: rest) =
      .char (Char.ofNat (append (append (append lead.bits b1) b2) b3)) 4 :: pieces rest := by
  rw [pieces]
  simp only [not_lt_of_ofByte? hlead, if_false, hlead, h1, hf, h2, h3]
  rfl

end

theorem exists_lead_two {v : Nat} (hlow : 0x80 ≤ v) (hhigh : v ≤ 0x7ff) :
    ∃ lead, Lead.ofByte? (.ofNat (v / 64 % 32 + 192)) = some lead ∧ lead.following = 1 ∧
      lead.bits = v / 64 ∧ lead.admits (.ofNat (v % 64 + 128)) = true := by
  have h0 : (UInt8.ofNat (v / 64 % 32 + 192)).toNat = v / 64 + 192 := by
    rw [toNat_byte (by omega)]
    omega
  refine ⟨⟨1, 0x80, 0xBF, v / 64 + 192 - 0xC0⟩, ?_, rfl, Nat.add_sub_cancel _ _, ?_⟩
  · simp only [Lead.ofByte?, h0]
    rw [if_pos]
    simp only [Bool.and_eq_true, decide_eq_true_eq]
    omega
  · rw [Lead.admits_iff, toNat_byte (by omega)]
    change 0x80 ≤ v % 64 + 128 ∧ v % 64 + 128 ≤ 0xBF
    omega

theorem exists_lead_three {v : Nat} (hlow : 0x7ff < v) (hhigh : v ≤ 0xffff)
    (hvalid : v < 0xd800 ∨ 0xdfff < v) :
    ∃ lead, Lead.ofByte? (.ofNat (v / 4096 % 16 + 224)) = some lead ∧ lead.following = 2 ∧
      lead.bits = v / 4096 ∧ lead.admits (.ofNat (v / 64 % 64 + 128)) = true := by
  have h0 : (UInt8.ofNat (v / 4096 % 16 + 224)).toNat = v / 4096 + 224 := by
    rw [toNat_byte (by omega)]
    omega
  have h1 : (UInt8.ofNat (v / 64 % 64 + 128)).toNat = v / 64 % 64 + 128 := toNat_byte (by omega)
  simp only [Lead.ofByte?, h0, Lead.admits_iff, h1, Bool.and_eq_true, decide_eq_true_eq, beq_iff_eq]
  rw [if_neg (by omega)]
  split
  · -- The shortest form is that of two bytes.
    refine ⟨_, rfl, rfl, ?_, ?_⟩
    · change 0 = v / 4096
      omega
    · change 0xA0 ≤ v / 64 % 64 + 128 ∧ v / 64 % 64 + 128 ≤ 0xBF
      omega
  · split
    · -- Beyond are the surrogates.
      refine ⟨_, rfl, rfl, Nat.add_sub_cancel _ _, ?_⟩
      change 0x80 ≤ v / 64 % 64 + 128 ∧ v / 64 % 64 + 128 ≤ 0x9F
      omega
    · rw [if_pos (by omega)]
      refine ⟨_, rfl, rfl, Nat.add_sub_cancel _ _, ?_⟩
      change 0x80 ≤ v / 64 % 64 + 128 ∧ v / 64 % 64 + 128 ≤ 0xBF
      omega

theorem exists_lead_four {v : Nat} (hlow : 0xffff < v) (hhigh : v < 0x110000) :
    ∃ lead, Lead.ofByte? (.ofNat (v / 262144 % 8 + 240)) = some lead ∧ lead.following = 3 ∧
      lead.bits = v / 262144 ∧ lead.admits (.ofNat (v / 4096 % 64 + 128)) = true := by
  have h0 : (UInt8.ofNat (v / 262144 % 8 + 240)).toNat = v / 262144 + 240 := by
    rw [toNat_byte (by omega)]
    omega
  have h1 : (UInt8.ofNat (v / 4096 % 64 + 128)).toNat = v / 4096 % 64 + 128 := toNat_byte (by omega)
  simp only [Lead.ofByte?, h0, Lead.admits_iff, h1, Bool.and_eq_true, decide_eq_true_eq, beq_iff_eq]
  rw [if_neg (by omega), if_neg (by omega), if_neg (by omega), if_neg (by omega)]
  split
  · refine ⟨_, rfl, rfl, ?_, ?_⟩
    · change 0 = v / 262144
      omega
    · change 0x90 ≤ v / 4096 % 64 + 128 ∧ v / 4096 % 64 + 128 ≤ 0xBF
      omega
  · split
    · refine ⟨_, rfl, rfl, Nat.add_sub_cancel _ _, ?_⟩
      change 0x80 ≤ v / 4096 % 64 + 128 ∧ v / 4096 % 64 + 128 ≤ 0xBF
      omega
    · rw [if_pos (by omega)]
      refine ⟨_, rfl, rfl, Nat.add_sub_cancel _ _, ?_⟩
      change 0x80 ≤ v / 4096 % 64 + 128 ∧ v / 4096 % 64 + 128 ≤ 0x8F
      omega

theorem append_byte (bits n : Nat) : append bits (.ofNat (n % 64 + 128)) = bits * 64 + n % 64 := by
  have hbyte : (UInt8.ofNat (n % 64 + 128)).toNat = n % 64 + 128 := toNat_byte (by omega)
  unfold append
  omega

theorem isContinuation_byte (n : Nat) : isContinuation (.ofNat (n % 64 + 128)) = true := by
  rw [isContinuation_iff, toNat_byte (by omega)]
  omega

inductive Encoded (c : Char) : List UInt8 → Prop
  | one (h : c.toNat ≤ 0x7f) : Encoded c [.ofNat c.toNat]
  | two (hlow : 0x80 ≤ c.toNat) (hhigh : c.toNat ≤ 0x7ff) :
      Encoded c [.ofNat (c.toNat / 64 % 32 + 192), .ofNat (c.toNat % 64 + 128)]
  | three (hlow : 0x7ff < c.toNat) (hhigh : c.toNat ≤ 0xffff) :
      Encoded c [.ofNat (c.toNat / 4096 % 16 + 224), .ofNat (c.toNat / 64 % 64 + 128),
        .ofNat (c.toNat % 64 + 128)]
  | four (hlow : 0xffff < c.toNat) :
      Encoded c [.ofNat (c.toNat / 262144 % 8 + 240), .ofNat (c.toNat / 4096 % 64 + 128),
        .ofNat (c.toNat / 64 % 64 + 128), .ofNat (c.toNat % 64 + 128)]

theorem encoded_utf8EncodeChar (c : Char) : Encoded c (String.utf8EncodeChar c) := by
  by_cases hone : c.toNat ≤ 0x7f
  · have hbytes : String.utf8EncodeChar c = _ := if_pos hone
    exact hbytes ▸ .one hone
  by_cases htwo : c.toNat ≤ 0x7ff
  · have hbytes : String.utf8EncodeChar c = _ := (if_neg hone).trans (if_pos htwo)
    exact hbytes ▸ .two (by omega) htwo
  by_cases hthree : c.toNat ≤ 0xffff
  · have hbytes : String.utf8EncodeChar c = _ :=
      (if_neg hone).trans ((if_neg htwo).trans (if_pos hthree))
    exact hbytes ▸ .three (by omega) hthree
  · have hbytes : String.utf8EncodeChar c = _ :=
      (if_neg hone).trans ((if_neg htwo).trans (if_neg hthree))
    exact hbytes ▸ .four (by omega)

variable {c : Char} {bytes : List UInt8}

theorem Encoded.exists_pieces (h : Encoded c bytes) (rest : List UInt8) :
    ∃ width, pieces (bytes ++ rest) = .char c width :: pieces rest := by
  have hvalid : c.toNat < 0xd800 ∨ 0xdfff < c.toNat ∧ c.toNat < 0x110000 := c.valid
  have hchar {n : Nat} (h : n = c.toNat) : Char.ofNat n = c := h ▸ Char.ofNat_toNat c
  cases h with
  | one hone =>
      have hbyte : (UInt8.ofNat c.toNat).toNat = c.toNat := toNat_byte (by omega)
      have hlt : UInt8.ofNat c.toNat < 0x80 := by
        rw [UInt8.lt_iff_toNat_lt, hbyte]
        exact Nat.lt_succ_of_le hone
      refine ⟨1, ?_⟩
      rw [List.singleton_append, pieces, if_pos hlt, hchar hbyte]
  | two hlow hhigh =>
      obtain ⟨lead, hlead, hf, hbits, h1⟩ := exists_lead_two hlow hhigh
      refine ⟨2, ?_⟩
      rw [List.cons_append, List.singleton_append, pieces_two hlead h1 hf, hbits, append_byte,
        hchar (by omega)]
  | three hlow hhigh =>
      obtain ⟨lead, hlead, hf, hbits, h1⟩ := exists_lead_three hlow hhigh (by omega)
      refine ⟨3, ?_⟩
      rw [List.cons_append, List.cons_append, List.singleton_append,
        pieces_three hlead h1 hf (isContinuation_byte _), hbits, append_byte, append_byte,
        hchar (by omega)]
  | four hlow =>
      obtain ⟨lead, hlead, hf, hbits, h1⟩ := exists_lead_four hlow (by omega)
      refine ⟨4, ?_⟩
      rw [List.cons_append, List.cons_append, List.cons_append, List.singleton_append,
        pieces_four hlead h1 hf (isContinuation_byte _) (isContinuation_byte _), hbits, append_byte,
        append_byte, append_byte, hchar (by omega)]

theorem mapM_char?_pieces (cs : List Char) :
    (pieces (cs.flatMap String.utf8EncodeChar)).mapM Piece.char? = some cs := by
  induction cs with
  | nil => rfl
  | cons c cs ih =>
      obtain ⟨width, hpieces⟩ :=
        (encoded_utf8EncodeChar c).exists_pieces (cs.flatMap String.utf8EncodeChar)
      rw [List.flatMap_cons, hpieces, List.mapM_cons, ih]
      rfl

theorem decode?_encode (s : String) : decode? (encode s) = some s := by
  rw [decode?, encode, mapM_char?_pieces, Option.map_some, String.ofList_toList]

theorem eq_ofNat {b : UInt8} {n : Nat} (h : b.toNat = n) : b = .ofNat n := by
  rw [← h, UInt8.ofNat_toNat]

theorem toNat_char {v : Nat} (h : v < 0xd800 ∨ 0xdfff < v ∧ v < 0x110000) :
    (Char.ofNat v).toNat = v := by
  have hvalid : v.isValidChar := h
  rw [Char.ofNat, dif_pos hvalid]
  rfl

section

variable {b0 b1 b2 b3 : UInt8} {lead : Lead} (hlead : Lead.ofByte? b0 = some lead)
  (h1 : lead.admits b1 = true)

include hlead h1

theorem lead_bounds :
    0x80 ≤ b1.toNat ∧ b1.toNat ≤ 0xBF ∧
    (lead.following = 1 → 0xC2 ≤ b0.toNat ∧ b0.toNat ≤ 0xDF ∧ lead.bits = b0.toNat - 0xC0) ∧
    (lead.following = 2 → 0xE0 ≤ b0.toNat ∧ b0.toNat ≤ 0xEF ∧ lead.bits = b0.toNat - 0xE0 ∧
      (b0.toNat = 0xE0 → 0xA0 ≤ b1.toNat) ∧ (b0.toNat = 0xED → b1.toNat ≤ 0x9F)) ∧
    (lead.following ≠ 1 → lead.following ≠ 2 → 0xF0 ≤ b0.toNat ∧ b0.toNat ≤ 0xF4 ∧
      lead.bits = b0.toNat - 0xF0 ∧
      (b0.toNat = 0xF0 → 0x90 ≤ b1.toNat) ∧ (b0.toNat = 0xF4 → b1.toNat ≤ 0x8F)) := by
  rw [Lead.admits_iff] at h1
  simp only [Lead.ofByte?, Bool.and_eq_true, decide_eq_true_eq, beq_iff_eq] at hlead
  repeat' split at hlead
  all_goals cases hlead
  all_goals
    simp only [UInt8.reduceToNat, Nat.reduceEqDiff, ne_eq, not_true_eq_false, not_false_eq_true,
      false_implies, forall_const, and_true, true_and] at h1 ⊢
    omega

theorem encoded_two (hf : lead.following = 1) :
    Encoded (Char.ofNat (append lead.bits b1)) [b0, b1] := by
  obtain ⟨hlow, hhigh, hbounds, -⟩ := lead_bounds hlead h1
  obtain ⟨hlow0, hhigh0, hbits⟩ := hbounds hf
  have hv : append lead.bits b1 = lead.bits * 64 + (b1.toNat - 0x80) := rfl
  have hchar := toNat_char (v := append lead.bits b1) (by omega)
  have htwo := Encoded.two (c := Char.ofNat (append lead.bits b1)) (by omega) (by omega)
  rwa [hchar, ← eq_ofNat (b := b0) (by omega), ← eq_ofNat (b := b1) (by omega)] at htwo

theorem encoded_three (hf : lead.following = 2) (h2 : isContinuation b2 = true) :
    Encoded (Char.ofNat (append (append lead.bits b1) b2)) [b0, b1, b2] := by
  obtain ⟨hlow, hhigh, -, hbounds, -⟩ := lead_bounds hlead h1
  obtain ⟨hlow0, hhigh0, hbits, hshort, hsurrogate⟩ := hbounds hf
  rw [isContinuation_iff] at h2
  have hv : append (append lead.bits b1) b2 =
      (lead.bits * 64 + (b1.toNat - 0x80)) * 64 + (b2.toNat - 0x80) := rfl
  have hchar := toNat_char (v := append (append lead.bits b1) b2) (by omega)
  have hthree :=
    Encoded.three (c := Char.ofNat (append (append lead.bits b1) b2)) (by omega) (by omega)
  rwa [hchar, ← eq_ofNat (b := b0) (by omega), ← eq_ofNat (b := b1) (by omega),
    ← eq_ofNat (b := b2) (by omega)] at hthree

theorem encoded_four (hf : lead.following ≠ 1) (hf' : lead.following ≠ 2)
    (h2 : isContinuation b2 = true) (h3 : isContinuation b3 = true) :
    Encoded (Char.ofNat (append (append (append lead.bits b1) b2) b3)) [b0, b1, b2, b3] := by
  obtain ⟨hlow, hhigh, -, -, hbounds⟩ := lead_bounds hlead h1
  obtain ⟨hlow0, hhigh0, hbits, hshort, hlast⟩ := hbounds hf hf'
  rw [isContinuation_iff] at h2 h3
  have hv : append (append (append lead.bits b1) b2) b3 =
      ((lead.bits * 64 + (b1.toNat - 0x80)) * 64 + (b2.toNat - 0x80)) * 64 +
        (b3.toNat - 0x80) := rfl
  have hchar := toNat_char (v := append (append (append lead.bits b1) b2) b3) (by omega)
  have hfour :=
    Encoded.four (c := Char.ofNat (append (append (append lead.bits b1) b2) b3)) (by omega)
  rwa [hchar, ← eq_ofNat (b := b0) (by omega), ← eq_ofNat (b := b1) (by omega),
    ← eq_ofNat (b := b2) (by omega), ← eq_ofNat (b := b3) (by omega)] at hfour

end

theorem Encoded.eq_utf8EncodeChar {c : Char} {bytes : List UInt8} (h : Encoded c bytes) :
    bytes = String.utf8EncodeChar c := by
  have h' := encoded_utf8EncodeChar c
  generalize String.utf8EncodeChar c = bytes' at h' ⊢
  cases h <;> cases h' <;> first | rfl | omega

theorem encoded_one {b : UInt8} (h : b < 0x80) : Encoded (Char.ofNat b.toNat) [b] := by
  have hlt : b.toNat < 128 := UInt8.lt_iff_toNat_lt.mp h
  have hchar := toNat_char (v := b.toNat) (by omega)
  have hone := Encoded.one (c := Char.ofNat b.toNat) (by omega)
  rwa [hchar, UInt8.ofNat_toNat] at hone

theorem flatMap_of_encoded {c : Char} {cs : List Char} {bytes rest : List UInt8} {width : Nat}
    (h : Encoded c bytes)
    (ih : ∀ {cs}, (pieces rest).mapM Piece.char? = some cs →
      cs.flatMap String.utf8EncodeChar = rest)
    (hcs : (.char c width :: pieces rest).mapM Piece.char? = some cs) :
    cs.flatMap String.utf8EncodeChar = bytes ++ rest := by
  rw [List.mapM_cons] at hcs
  simp only [Piece.char?, Option.bind_eq_bind, Option.bind_some, Option.bind_eq_some_iff] at hcs
  obtain ⟨cs', hrest, hcons⟩ := hcs
  cases hcons
  rw [List.flatMap_cons, ih hrest, h.eq_utf8EncodeChar]

theorem mapM_broken (width : Nat) (ps : List Piece) :
    (.broken width :: ps).mapM Piece.char? = none := by
  rw [List.mapM_cons]
  rfl

theorem flatMap_of_mapM_pieces {bytes : List UInt8} {cs : List Char}
    (h : (pieces bytes).mapM Piece.char? = some cs) :
    cs.flatMap String.utf8EncodeChar = bytes := by
  fun_induction pieces bytes generalizing cs with
  | case1 =>
    cases h
    rfl
  | case2 b0 t0 hlt ih => exact flatMap_of_encoded (encoded_one hlt) ih h
  | case6 b0 hge lead hlead b1 t1 hadmits hf ih =>
    exact flatMap_of_encoded (encoded_two hlead (by simpa using hadmits) (by simpa using hf)) ih h
  | case9 b0 hge lead hlead b1 hadmits hne b2 t2 h2 hf ih =>
    exact flatMap_of_encoded
      (encoded_three hlead (by simpa using hadmits) (by simpa using hf) (by simpa using h2)) ih h
  | case12 b0 hge lead hlead b1 hadmits hne b2 h2 hne' b3 t3 h3 ih =>
    exact flatMap_of_encoded
      (encoded_four hlead (by simpa using hadmits) (by simpa using hne) (by simpa using hne')
      (by simpa using h2) (by simpa using h3)) ih h
  -- All other cases begin with an ill-formed stretch.
  | _ =>
    rw [mapM_broken] at h
    cases h

theorem decode?_eq_some_iff {bytes : List UInt8} {s : String} :
    decode? bytes = some s ↔ bytes = encode s := by
  constructor
  · intro h
    obtain ⟨cs, hcs, rfl⟩ := Option.map_eq_some_iff.mp h
    rw [encode, String.toList_ofList, flatMap_of_mapM_pieces hcs]
  · rintro rfl
    exact decode?_encode s

theorem Encoded.ascii_mem_iff {d : Char} (h : Encoded c bytes) (hd : d.toNat < 128) :
    UInt8.ofNat d.toNat ∈ bytes ↔ c = d := by
  have hchar : c = d ↔ c.toNat = d.toNat := by
    constructor
    · rintro rfl
      rfl
    · intro hc
      rw [← Char.ofNat_toNat c, hc, Char.ofNat_toNat]
  have hbyte {n : Nat} (h : n < 256) : UInt8.ofNat d.toNat = UInt8.ofNat n ↔ n = d.toNat := by
    rw [← UInt8.toNat_inj, toNat_byte (by omega), toNat_byte h]
    exact eq_comm
  rw [hchar]
  cases h with
  | one hone => rw [List.mem_singleton, hbyte (by omega)]
  | two hlow hhigh =>
      simp only [List.mem_cons, List.not_mem_nil, or_false]
      rw [hbyte (by omega), hbyte (by omega)]
      omega
  | three hlow hhigh =>
      simp only [List.mem_cons, List.not_mem_nil, or_false]
      rw [hbyte (by omega), hbyte (by omega), hbyte (by omega)]
      omega
  | four hlow =>
      simp only [List.mem_cons, List.not_mem_nil, or_false]
      rw [hbyte (by omega), hbyte (by omega), hbyte (by omega), hbyte (by omega)]
      omega

theorem ascii_mem_encode_iff {s : String} {d : Char} (hd : d.toNat < 128) :
    UInt8.ofNat d.toNat ∈ encode s ↔ d ∈ s.toList := by
  have hmem (c : Char) : UInt8.ofNat d.toNat ∈ String.utf8EncodeChar c ↔ c = d :=
    (encoded_utf8EncodeChar c).ascii_mem_iff hd
  simp only [encode, List.mem_flatMap, hmem, exists_eq_right]

theorem lineFeed_mem_encode_iff {s : String} : 10 ∈ encode s ↔ '\n' ∈ s.toList :=
  ascii_mem_encode_iff (d := '\n') (by decide)

theorem encode_append (s t : String) : encode (s ++ t) = encode s ++ encode t := by
  rw [encode, String.toList_append, List.flatMap_append, encode, encode]

end MailAudit.Text.Utf8
