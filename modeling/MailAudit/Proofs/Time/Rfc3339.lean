import MailAudit.Proofs.Text.Decimal
import MailAudit.Proofs.Time.Calendar
import MailAudit.Time.Rfc3339
import Mathlib.Data.Option.Basic

namespace MailAudit.Rfc3339

open MailAudit.Text

def Stops (rest : List Char) : Prop := rest.takeWhile Decimal.isDigit = []

theorem stops_cons {c : Char} (h : Decimal.isDigit c = false) (rest : List Char) :
    Stops (c :: rest) :=
  List.takeWhile_cons_of_neg (by simp [h])

theorem Stops.head_eq {rest : List Char} (hrest : Stops rest) :
    ∀ c ∈ rest.head?, Decimal.isDigit c = false := by
  cases rest with
  | nil => nofun
  | cons c rest =>
      rintro _ ⟨⟩
      simpa [Stops, List.takeWhile_cons] using hrest

theorem number?_append {most : Nat} {digits rest : List Char}
    (hdigits : ∀ c ∈ digits, Decimal.isDigit c = true) (hne : digits ≠ []) (hrest : Stops rest)
    (hcount : digits.length ≤ most) :
    number? most (digits ++ rest) = some (Decimal.value digits, rest) := by
  have htake : ((digits ++ rest).takeWhile Decimal.isDigit).take most = digits := by
    rw [takeWhile_run hdigits hrest.head_eq, List.take_of_length_le hcount]
  simp [number?, htake, hne]

theorem number?_padded {most width n : Nat} {rest : List Char} (hrest : Stops rest)
    (hcount : (Decimal.padded width n).length ≤ most) :
    number? most (Decimal.padded width n ++ rest) = some (n, rest) := by
  rw [number?_append (fun _ => Decimal.isDigit_of_mem_padded) (Decimal.padded_ne_nil width n) hrest
    hcount, Decimal.value_padded]

theorem trimStart_padded (width n : Nat) (rest : List Char) :
    trimStart (Decimal.padded width n ++ rest) = Decimal.padded width n ++ rest := by
  obtain ⟨c, cs, hcons, hc⟩ := Decimal.exists_padded_eq_cons width n
  rw [hcons, List.cons_append, trimStart_cons (isBlank_of_isDigit hc)]

theorem field?_padded {n : Nat} (h : n < 100) {rest : List Char} (hrest : Stops rest) :
    field? (Decimal.padded 2 n ++ rest) = some (n, rest) := by
  have hlength : (Decimal.padded 2 n).length = 2 := Decimal.length_padded (by decide) h
  rw [field?, trimStart_padded, number?_padded hrest (Nat.le_of_eq hlength)]

theorem mark?_cons {c : Char} (h : isBlank c = false) (rest : List Char) :
    mark? c (c :: rest) = some rest := by
  simp [mark?, trimStart_cons h]

theorem year?_signed (positive : Bool) (n : Nat) {rest : List Char} (hrest : Stops rest) :
    year? (signed positive 4 n ++ rest) = some (if positive then (n : Int)
      else -(n : Int), rest) := by
  have hnumber : number? (Decimal.padded 4 n ++ rest).length (Decimal.padded 4 n ++ rest) =
      some (n, rest) := number?_padded hrest (by simp)
  cases positive with
  | true =>
      simp only [signed, if_true, List.cons_append, year?, trimStart_cons (c := '+') rfl, hnumber]
      rfl
  | false =>
      simp only [signed, Bool.false_eq_true, if_false, List.cons_append, year?,
        trimStart_cons (c := '-') rfl, hnumber]
      rfl

theorem year?_padded {n : Nat} (h : n < 10000) {rest : List Char} (hrest : Stops rest) :
    year? (Decimal.padded 4 n ++ rest) = some ((n : Int), rest) := by
  have hlength : (Decimal.padded 4 n).length = 4 := Decimal.length_padded (by decide) h
  have hnumber := number?_padded hrest (Nat.le_of_eq hlength)
  obtain ⟨c, cs, hcons, hc⟩ := Decimal.exists_padded_eq_cons 4 n
  have hminus : c ≠ '-' := by
    rintro rfl
    cases hc
  have hplus : c ≠ '+' := by
    rintro rfl
    cases hc
  rw [year?, trimStart_padded, hcons, List.cons_append]
  split
  · rename_i heq
    exact absurd (List.cons.inj heq).1 hminus
  · rename_i heq
    exact absurd (List.cons.inj heq).1 hplus
  · rw [← List.cons_append, ← hcons, hnumber]
    rfl

theorem year?_yearText (year : Int) {rest : List Char} (hrest : Stops rest) :
    year? (yearText year ++ rest) = some (year, rest) := by
  rw [yearText]
  split
  · rename_i hplain
    rw [year?_padded (by omega) hrest]
    congr 2
    omega
  · rw [year?_signed _ _ hrest]
    congr 2
    by_cases hpositive : 0 ≤ year
    · rw [if_pos (decide_eq_true hpositive)]
      exact Int.natAbs_of_nonneg hpositive
    · rw [decide_eq_false hpositive, if_neg Bool.false_ne_true]
      omega

theorem date?_dateText {d : Date} (hmonth : d.month < 100) (hday : d.day < 100) {rest : List Char}
    (hrest : Stops rest) : date? (dateText d ++ rest) = some (d, rest) := by
  have htext : dateText d ++ rest = yearText d.year ++ '-' :: (Decimal.padded 2 d.month ++
      '-' :: (Decimal.padded 2 d.day ++ rest)) := by
    simp [dateText]
  have hmark (cs : List Char) : mark? '-' ('-' :: cs) = some cs := mark?_cons rfl cs
  have hstop (cs : List Char) : Stops ('-' :: cs) := stops_cons rfl cs
  rw [htext, date?, year?_yearText _ (hstop _)]
  simp only [Option.bind_eq_bind, Option.bind_some, hmark, field?_padded hmonth (hstop _),
    field?_padded hday hrest]

theorem fraction?_point {digits rest : List Char}
    (hdigits : ∀ c ∈ digits, Decimal.isDigit c = true) (hne : digits ≠ [])
    (hcount : digits.length ≤ 9) (hrest : Stops rest) :
    fraction? ('.' :: (digits ++ rest)) =
      some (Decimal.value digits * Nat.pow 10 (9 - digits.length), rest) := by
  simp [fraction?, takeWhile_run hdigits hrest.head_eq, dropWhile_run hdigits hrest.head_eq, hne,
    List.take_of_length_le hcount]

theorem fraction?_fractionText {places nanos : Nat} (hplaces : places ≤ 9)
    (hnanos : nanos < 1000000000) (hexact : nanos % Nat.pow 10 (9 - places) = 0) (cs : List Char) :
    fraction? (fractionText places nanos ++ 'Z' :: cs) = some (nanos, 'Z' :: cs) := by
  by_cases hnone : places = 0
  · have hzero : nanos = 0 := by
      rw [hnone] at hexact
      exact (Nat.mod_eq_of_lt hnanos).symm.trans hexact
    rw [fractionText, if_pos hnone, hzero]
    rfl
  · have hpower : Nat.pow 10 places * Nat.pow 10 (9 - places) = 1000000000 := by
      rw [Nat.pow_eq, Nat.pow_eq, ← Nat.pow_add, Nat.add_sub_cancel' hplaces]
    have hfits : nanos / Nat.pow 10 (9 - places) < Nat.pow 10 places :=
      Nat.div_lt_of_lt_mul (by rw [Nat.mul_comm, hpower]; exact hnanos)
    have hlength := Decimal.length_padded (Nat.pos_of_ne_zero hnone) hfits
    have hvalue : nanos / Nat.pow 10 (9 - places) * Nat.pow 10 (9 - places) = nanos :=
      Nat.div_mul_cancel (Nat.dvd_of_mod_eq_zero hexact)
    have hcount := Nat.le_trans (Nat.le_of_eq hlength) hplaces
    rw [fractionText, if_neg hnone, List.cons_append,
      fraction?_point (fun _ => Decimal.isDigit_of_mem_padded) (Decimal.padded_ne_nil _ _) hcount
        (stops_cons rfl cs), Decimal.value_padded, hlength, hvalue]

theorem stops_fractionText (places nanos : Nat) (cs : List Char) :
    Stops (fractionText places nanos ++ 'Z' :: cs) := by
  rw [fractionText]
  split
  · exact stops_cons rfl cs
  · exact stops_cons rfl _

theorem placesFor_spec (nanos : Nat) :
    placesFor nanos ≤ 9 ∧ nanos % 1000000000 % Nat.pow 10 (9 - placesFor nanos) = 0 := by
  rw [placesFor]
  split
  · rename_i h
    exact ⟨by decide, by rw [h, Nat.zero_mod]⟩
  · split
    · rename_i h
      refine ⟨by decide, ?_⟩
      show nanos % 1000000000 % 1000000 = 0
      omega
    · split
      · rename_i h
        refine ⟨by decide, ?_⟩
        show nanos % 1000000000 % 1000 = 0
        omega
      · exact ⟨by decide, Nat.mod_one _⟩

theorem clock?_fields {hour minute second nanos : Nat} (hhour : hour < 24) (hminute : minute < 60)
    (hsecond : second ≤ 60) {fraction rest : List Char} (hstops : Stops fraction)
    (hfraction : fraction? fraction = some (nanos, rest)) :
    clock? (Decimal.padded 2 hour ++ ':' :: (Decimal.padded 2 minute ++
        ':' :: (Decimal.padded 2 second ++ fraction))) =
      if second = 60 then some (hour * 3600 + minute * 60 + 59, nanos + 1000000000, rest)
      else some (hour * 3600 + minute * 60 + second, nanos, rest) := by
  have hmark (cs : List Char) : mark? ':' (':' :: cs) = some cs := mark?_cons rfl cs
  have hstop (cs : List Char) : Stops (':' :: cs) := stops_cons rfl cs
  have hguard : guard (hour < 24 ∧ minute < 60 ∧ second ≤ 60) = some () :=
    (Option.guard_eq_some' ()).mpr ⟨hhour, hminute, hsecond⟩
  rw [clock?, field?_padded (by omega) (hstop _)]
  simp only [Option.bind_eq_bind, Option.bind_some, hmark]
  rw [field?_padded (by omega) (hstop _)]
  simp only [Option.bind_some, hmark]
  rw [field?_padded (by omega) hstops]
  simp only [Option.bind_some, hfraction, hguard]

-- A leap second is the second 60 of a minute: its nanoseconds run on beyond those of second 59.
theorem clock?_clockText (t : Instant) (cs : List Char) :
    clock? (clockText t ++ (fractionText (placesFor t.nanos) (t.nanos % 1000000000) ++ 'Z' :: cs)) =
      some (t.secondOfDay.toNat, t.nanos, 'Z' :: cs) := by
  have hsecond : t.secondOfDay.toNat < 86400 := by
    have hlast : t.secondOfDay < 86400 := Int.emod_lt_of_pos _ (by decide)
    omega
  have hleap : 1000000000 ≤ t.nanos → t.secondOfDay.toNat % 60 = 59 := by
    intro h
    have hend := t.leap_at_end h
    simp only [Instant.secondOfDay]
    omega
  have hnanos := t.nanos_lt
  obtain ⟨hplaces, hexact⟩ := placesFor_spec t.nanos
  have hfraction := fraction?_fractionText hplaces (Nat.mod_lt t.nanos (by decide)) hexact cs
  have hstops := stops_fractionText (placesFor t.nanos) (t.nanos % 1000000000) cs
  simp only [clockText, List.append_assoc, List.cons_append]
  generalize t.secondOfDay.toNat = second at *
  rw [clock?_fields (by omega) (by omega) (by split <;> omega) hstops hfraction]
  by_cases hnext : 1000000000 ≤ t.nanos
  · have hend := hleap hnext
    have hsum : second / 3600 * 3600 + second / 60 % 60 * 60 + 59 = second := by omega
    have hnano : t.nanos % 1000000000 + 1000000000 = t.nanos := by omega
    rw [if_pos hnext, if_pos (by omega), hsum, hnano]
  · have hsum : second / 3600 * 3600 + second / 60 % 60 * 60 + (second % 60 + 0) = second := by
      omega
    have hnano : t.nanos % 1000000000 = t.nanos := by omega
    rw [if_neg hnext, if_neg (by omega), hsum, hnano]

theorem offset?_utc : offset? (trimStart ['Z']) = some (0, []) := by decide

theorem year_bounds (t : Instant) :
    Instant.firstYear ≤ (Date.ofDay (t.seconds / 86400)).year ∧
      (Date.ofDay (t.seconds / 86400)).year ≤ Instant.lastYear := by
  have hfirst := t.first_le
  have hlast := t.le_last
  simp only [Instant.firstSecond, Instant.lastSecond] at hfirst hlast
  exact ⟨Date.le_year_ofDay (by omega), Date.year_ofDay_le (by omega)⟩

theorem of?_self (t : Instant) : Instant.of? t.seconds t.nanos = some t :=
  dif_pos ⟨t.first_le, t.le_last, t.nanos_lt, t.leap_at_end⟩

theorem read?_print (t : Instant) : read? (print t) = some t := by
  obtain ⟨hmonth, hday⟩ := Date.le_of_isValid (Date.isValid_ofDay (t.seconds / 86400))
  have hseparator (cs : List Char) : separator? ('T' :: cs) = some cs := rfl
  have hended : guard ((trimStart []).isEmpty = true) = some () :=
    (Option.guard_eq_some' ()).mpr rfl
  have hvalid : guard ((Date.ofDay (t.seconds / 86400)).isValid = true ∧
      Instant.firstYear ≤ (Date.ofDay (t.seconds / 86400)).year ∧
      (Date.ofDay (t.seconds / 86400)).year ≤ Instant.lastYear) = some () :=
    (Option.guard_eq_some' ()).mpr ⟨Date.isValid_ofDay _, year_bounds t⟩
  have hseconds : t.seconds / 86400 * 86400 + t.secondOfDay.toNat - 0 = t.seconds := by
    have hsecond : 0 ≤ t.secondOfDay := Int.emod_nonneg _ (by decide)
    rw [Int.toNat_of_nonneg hsecond, Instant.secondOfDay]
    omega
  simp only [read?, print, withPlaces, String.toList_ofList, List.append_assoc, List.cons_append]
  rw [date?_dateText (by omega) (by omega) (stops_cons rfl _)]
  simp only [Option.bind_eq_bind, Option.bind_some, hseparator, clock?_clockText,
    offset?_utc, hended, hvalid, Date.toDay_ofDay, hseconds, of?_self]

end MailAudit.Rfc3339
