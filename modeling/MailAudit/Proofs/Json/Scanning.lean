import MailAudit.Json.Printer
import MailAudit.Json.Reader
import MailAudit.Proofs.Text.Decimal
import Mathlib.Data.List.TakeWhile
import Mathlib.Tactic.IntervalCases

namespace MailAudit.Json

open Text

theorem tokensFrom_cons {m n : Mode} {c : Char} {t : List Token} (h : step m c = some (t, n))
    (cs : List Char) : tokensFrom m (c :: cs) = (tokensFrom n cs).map (t ++ ·) := by
  simp only [tokensFrom, h, Option.bind_eq_bind, Option.bind_some]
  cases tokensFrom n cs <;> rfl

theorem tokensFrom_silent {m n : Mode} {c : Char} (h : step m c = some ([], n)) (cs : List Char) :
    tokensFrom m (c :: cs) = tokensFrom n cs := by
  rw [tokensFrom_cons h]
  exact Option.map_id'

def escaped (c : Char) : List Char := (escape? c).getD [c]

theorem flatten_stringWrites (stretch cs : List Char) :
    (stringWrites stretch cs).flatten = stretch.reverse ++ cs.flatMap escaped := by
  induction cs generalizing stretch with
  | nil => cases stretch <;> simp [stringWrites]
  | cons c cs ih =>
      cases he : escape? c with
      | none => simp [stringWrites, he, ih, escaped]
      | some e => cases stretch <;> simp [stringWrites, he, ih, escaped]

def unitOf (c : Char) : Utf16.Unit :=
  match escape? c with
  | some ('\\' :: 'u' :: _) => .code c.toNat
  | _ => .char c

inductive Escape (c : Char) : Prop
  | itself (he : escape? c = none) (hquote : c ≠ '"') (hback : c ≠ '\\') (hlow : ¬ c.toNat < 0x20)
  | short (d : Char) (he : escape? c = some ['\\', d]) (hd : d ≠ 'u') (hc : unescape? d = some c)
  | code (he : escape? c = some ('\\' :: 'u' :: '0' :: '0' :: hexByte c.toNat))
      (hlow : c.toNat < 0x20)

theorem escape_cases (c : Char) : Escape c := by
  by_cases hquote : c = '"'
  · exact .short '"' (by rw [hquote]; rfl) (by decide) (by rw [hquote]; rfl)
  by_cases hback : c = '\\'
  · exact .short '\\' (by rw [hback]; rfl) (by decide) (by rw [hback]; rfl)
  by_cases hb : c = '\x08'
  · exact .short 'b' (by rw [hb]; rfl) (by decide) (by rw [hb]; rfl)
  by_cases hf : c = '\x0c'
  · exact .short 'f' (by rw [hf]; rfl) (by decide) (by rw [hf]; rfl)
  by_cases hn : c = '\n'
  · exact .short 'n' (by rw [hn]; rfl) (by decide) (by rw [hn]; rfl)
  by_cases hr : c = '\r'
  · exact .short 'r' (by rw [hr]; rfl) (by decide) (by rw [hr]; rfl)
  by_cases ht : c = '\t'
  · exact .short 't' (by rw [ht]; rfl) (by decide) (by rw [ht]; rfl)
  by_cases hlow : c.toNat < 0x20
  · exact .code (by simp [escape?, hquote, hback, hb, hf, hn, hr, ht, hlow]) hlow
  · exact .itself (by simp [escape?, hquote, hback, hb, hf, hn, hr, ht, hlow]) hquote hback hlow

theorem exists_hexByte {n : Nat} (h : n < 0x20) :
    ∃ a b, hexByte n = [a, b] ∧ hexDigit? a = some (n / 16) ∧ hexDigit? b = some (n % 16) := by
  interval_cases n <;> exact ⟨_, _, rfl, rfl, rfl⟩

theorem tokensFrom_code {n : Nat} (h : n < 0x20) (read : List Utf16.Unit) (rest : List Char) :
    tokensFrom (.inString read) ('\\' :: 'u' :: '0' :: '0' :: hexByte n ++ rest) =
      tokensFrom (.inString (.code n :: read)) rest := by
  obtain ⟨a, b, hbyte, ha, hb⟩ := exists_hexByte h
  have hn : 16 * (n / 16) + n % 16 = n := Nat.div_add_mod n 16
  rw [hbyte]
  simp only [List.cons_append, List.nil_append]
  rw [tokensFrom_silent (n := .escaped read) rfl,
    tokensFrom_silent (n := .inCode read 0 0) rfl,
    tokensFrom_silent (n := .inCode read 1 0) rfl,
    tokensFrom_silent (n := .inCode read 2 0) rfl,
    tokensFrom_silent (n := .inCode read 3 (n / 16)) (by simp [step, ha]),
    tokensFrom_silent (n := .inString (.code n :: read)) (by simp [step, hb, hn])]

theorem tokensFrom_escaped (c : Char) (read : List Utf16.Unit) (rest : List Char) :
    tokensFrom (.inString read) (escaped c ++ rest) =
      tokensFrom (.inString (unitOf c :: read)) rest := by
  cases escape_cases c with
  | itself he hquote hback hlow =>
      simp only [escaped, unitOf, he, Option.getD_none, List.singleton_append]
      exact tokensFrom_silent (by simp [step, hquote, hback, hlow]) rest
  | short d he hd hc =>
      have hunit : unitOf c = .char c := by
        rw [unitOf, he]
        split
        · rename_i heq
          simp only [Option.some.injEq, List.cons.injEq] at heq
          exact absurd heq.2.1 hd
        · rfl
      simp only [escaped, he, hunit, Option.getD_some, List.cons_append, List.nil_append]
      rw [tokensFrom_silent (n := .escaped read) rfl,
        tokensFrom_silent (n := .inString (.char c :: read)) (by simp [step, hd, hc])]
  | code he hlow =>
      simp only [escaped, unitOf, he, Option.getD_some]
      exact tokensFrom_code hlow read rest

theorem tokensFrom_flatMap_escaped (cs : List Char) (read : List Utf16.Unit) (rest : List Char) :
    tokensFrom (.inString read) (cs.flatMap escaped ++ rest) =
      tokensFrom (.inString ((cs.map unitOf).reverse ++ read)) rest := by
  induction cs generalizing read with
  | nil => rfl
  | cons c cs ih =>
      rw [List.flatMap_cons, List.append_assoc, tokensFrom_escaped, ih, List.map_cons,
        List.reverse_cons, List.append_assoc, List.singleton_append]

theorem join?_code {n : Nat} (hhigh : Utf16.isHighSurrogate n = false)
    (hlow : Utf16.isLowSurrogate n = false) (rest : List Utf16.Unit) :
    Utf16.join? (.code n :: rest) = (Utf16.join? rest).map (Char.ofNat n :: ·) := by
  cases rest with
  | nil => simp [Utf16.join?, hhigh, hlow]
  | cons u rest => cases u <;> simp [Utf16.join?, hhigh, hlow]

theorem join?_map_unitOf (cs : List Char) : Utf16.join? (cs.map unitOf) = some cs := by
  induction cs with
  | nil => rfl
  | cons c cs ih =>
      rw [List.map_cons, unitOf]
      split
      · rename_i e he
        have hlow : c.toNat < 0x20 := by
          cases escape_cases c with
          | itself he' => rw [he'] at he; cases he
          | short d he' hd => rw [he'] at he; cases he; exact absurd rfl hd
          | code he' hlow => exact hlow
        have hhigh : Utf16.isHighSurrogate c.toNat = false := by
          simp only [Utf16.isHighSurrogate, Bool.and_eq_false_iff, decide_eq_false_iff_not]
          omega
        have hafter : Utf16.isLowSurrogate c.toNat = false := by
          simp only [Utf16.isLowSurrogate, Bool.and_eq_false_iff, decide_eq_false_iff_not]
          omega
        rw [join?_code hhigh hafter, ih, Char.ofNat_toNat]
        rfl
      · simp [Utf16.join?, ih]

theorem tokensFrom_quoted (s : String) (rest : List Char) :
    tokensFrom .between ((quotedWrites (some s)).flatten ++ rest) =
      (tokensFrom .between rest).map (.string (some s) :: ·) := by
  simp only [quotedWrites, List.flatten_cons, List.flatten_append, flatten_stringWrites,
    List.reverse_nil, List.nil_append, List.append_assoc, List.flatten_nil, List.append_nil,
    List.cons_append]
  rw [tokensFrom_silent (n := .inString []) rfl, tokensFrom_flatMap_escaped, List.append_nil,
    tokensFrom_cons (t := [.string (some s)]) (n := .between)]
  · rfl
  · simp [step, join?_map_unitOf]

inductive Delimited : List Char → Prop
  | ending : Delimited []
  | comma (cs) : Delimited (',' :: cs)
  | closeArray (cs) : Delimited (']' :: cs)
  | closeObject (cs) : Delimited ('\x7d' :: cs)

theorem tokensFrom_after {m : Mode} {t : Token} (hend : finish m = some [t])
    (hstep : ∀ c, isWordChar c = false → isNumberChar c = false → step m c = stepAfter (some t) c)
    {rest : List Char} (hrest : Delimited rest) :
    tokensFrom m rest = (tokensFrom .between rest).map (t :: ·) := by
  have hcons {c : Char} {token : Token} (hword : isWordChar c = false)
      (hnumber : isNumberChar c = false) (hc : stepBetween c = some ([token], .between))
      (cs : List Char) :
      tokensFrom m (c :: cs) = (tokensFrom .between (c :: cs)).map (t :: ·) := by
    have hafter : step m c = some ([t, token], .between) := by
      rw [hstep c hword hnumber, stepAfter, hc]
      rfl
    rw [tokensFrom_cons hafter, tokensFrom_cons (m := .between) hc, Option.map_map]
    rfl
  cases hrest with
  | ending => exact hend
  | comma cs => exact hcons rfl rfl rfl cs
  | closeArray cs => exact hcons rfl rfl rfl cs
  | closeObject cs => exact hcons rfl rfl rfl cs

theorem tokensFrom_inWord {word : List Char} (h : ∀ c ∈ word, isWordChar c = true)
    (read rest : List Char) :
    tokensFrom (.inWord read) (word ++ rest) =
      tokensFrom (.inWord (word.reverse ++ read)) rest := by
  induction word generalizing read with
  | nil => rfl
  | cons c word ih =>
      have hc : isWordChar c = true := h c List.mem_cons_self
      rw [List.cons_append, tokensFrom_silent (n := .inWord (c :: read)) (by simp [step, hc]),
        ih fun d hd => h d (List.mem_cons_of_mem c hd), List.reverse_cons, List.append_assoc,
        List.singleton_append]

theorem tokensFrom_word (word : String) {t : Token} {c : Char} {cs : List Char}
    (hword : word.toList = c :: cs) (hstart : stepBetween c = some ([], .inWord [c]))
    (hchars : cs.all isWordChar = true) (ht : wordToken? (c :: cs) = some t) {rest : List Char}
    (hrest : Delimited rest) :
    tokensFrom .between (word.toList ++ rest) = (tokensFrom .between rest).map (t :: ·) := by
  rw [hword, List.cons_append, tokensFrom_silent (m := .between) hstart,
    tokensFrom_inWord (List.all_eq_true.mp hchars)]
  refine tokensFrom_after ?_ ?_ hrest
  · simp [finish, ht]
  · intro d hd _
    simp [step, hd, ht]

theorem head?_digits_ne_zero {n : Nat} (h : 0 < n) : (Decimal.digits n).head? ≠ some '0' := by
  induction n using Nat.strong_induction_on with
  | _ n ih =>
      by_cases hn : n < 10
      · rw [Decimal.digits, Nat.toDigits_of_lt_base hn]
        interval_cases n <;> decide
      · rw [Decimal.digits, Nat.toDigits_of_base_le (by decide) (by omega)]
        obtain ⟨d, ds, hd⟩ :=
          List.exists_cons_of_ne_nil (Nat.toDigits_ne_nil (n := n / 10) (b := 10))
        have hrec := ih (n / 10) (by omega) (by omega)
        rw [Decimal.digits, hd] at hrec
        rw [hd]
        exact hrec

theorem isWhole_digits (n : Nat) : isWhole (Decimal.digits n) = true := by
  have hne : Decimal.digits n ≠ [] := Nat.toDigits_ne_nil
  by_cases hn : n = 0
  · rw [hn]
    rfl
  · simp [isWhole, hne, head?_digits_ne_zero (Nat.pos_of_ne_zero hn)]

theorem numeral?_digits (n : Nat) : numeral? (Decimal.digits n) = some (.ofNat n) := by
  have hall : ∀ c ∈ Decimal.digits n, Decimal.isDigit c = true := fun c =>
    Decimal.isDigit_of_mem_digits
  have htake : (Decimal.digits n).takeWhile Decimal.isDigit = Decimal.digits n :=
    List.takeWhile_eq_self_iff.mpr hall
  have hdrop : (Decimal.digits n).dropWhile Decimal.isDigit = [] :=
    List.dropWhile_eq_nil_iff.mpr hall
  unfold numeral?
  split
  rename_i negative cs hsign
  split at hsign
  · rename_i rest heq
    have hminus : Decimal.isDigit '-' = true := hall '-' (by simp [heq])
    cases hminus
  · cases hsign
    simp only [htake, hdrop, isWhole_digits]
    rfl

theorem stepBetween_of_isDigit {c : Char} (h : Decimal.isDigit c = true) :
    stepBetween c = some ([], .inNumber [c]) := by
  obtain ⟨hlow, hhigh⟩ := toNat_bounds_of_isDigit h
  rw [← Char.ofNat_toNat c]
  generalize c.toNat = n at hlow hhigh
  interval_cases n <;> rfl

theorem tokensFrom_inNumber {cs : List Char} (h : ∀ c ∈ cs, Decimal.isDigit c = true)
    (read rest : List Char) :
    tokensFrom (.inNumber read) (cs ++ rest) =
      tokensFrom (.inNumber (cs.reverse ++ read)) rest := by
  induction cs generalizing read with
  | nil => rfl
  | cons c cs ih =>
      have hc : isNumberChar c = true := by simp [isNumberChar, h c List.mem_cons_self]
      rw [List.cons_append, tokensFrom_silent (n := .inNumber (c :: read)) (by simp [step, hc]),
        ih fun d hd => h d (List.mem_cons_of_mem c hd), List.reverse_cons, List.append_assoc,
        List.singleton_append]

theorem tokensFrom_digits (n : Nat) {rest : List Char} (hrest : Delimited rest) :
    tokensFrom .between (Decimal.digits n ++ rest) =
      (tokensFrom .between rest).map (.literal (.nat n) :: ·) := by
  obtain ⟨c, cs, hcs⟩ := List.exists_cons_of_ne_nil (Nat.toDigits_ne_nil (n := n) (b := 10))
  have hdigits : Decimal.digits n = c :: cs := hcs
  have hall : ∀ d ∈ c :: cs, Decimal.isDigit d = true := fun d hd =>
    Decimal.isDigit_of_mem_digits (n := n) (hdigits ▸ hd)
  have htoken : numberToken? (cs.reverse ++ [c]) = some (.literal (.nat n)) := by
    rw [numberToken?, List.reverse_append, List.reverse_reverse, List.reverse_singleton,
      List.singleton_append, ← hdigits, numeral?_digits]
    rfl
  rw [hdigits, List.cons_append,
    tokensFrom_silent (m := .between) (stepBetween_of_isDigit (hall c List.mem_cons_self)),
    tokensFrom_inNumber fun d hd => hall d (List.mem_cons_of_mem c hd)]
  refine tokensFrom_after ?_ ?_ hrest
  · rw [finish, htoken]
    rfl
  · intro d _ hd
    simp [step, hd, htoken]

end MailAudit.Json
