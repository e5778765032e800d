import MailAudit.Time.Instant

namespace MailAudit

namespace Calendar

theorem sumOf_monthLengths (leap : Bool) :
    sumOf (monthLengths leap) = if leap then 366 else 365 := by
  cases leap <;> rfl

theorem yearStart_succ (year : Int) :
    yearStart (year + 1) = yearStart year + sumOf (monthLengths (isLeap year)) := by
  rw [sumOf_monthLengths]
  cases hleap : isLeap year with
  | true =>
      have hdivides : year % 4 = 0 ∧ (year % 100 ≠ 0 ∨ year % 400 = 0) := by
        simpa [isLeap] using hleap
      simp only [yearStart, if_true]
      omega
  | false =>
      have hdivides : ¬ (year % 4 = 0 ∧ (year % 100 ≠ 0 ∨ year % 400 = 0)) := by
        simpa [isLeap] using hleap
      simp only [yearStart, Bool.false_eq_true, if_false]
      omega

theorem yearStart_mono {a b : Int} (h : a ≤ b) : yearStart a ≤ yearStart b := by
  simp only [yearStart]
  omega

-- The guess by the mean length is off by less than one year, as leap days are spread almost evenly.
theorem yearStart_yearOf (day : Int) :
    yearStart (yearOf day) ≤ day ∧ day < yearStart (yearOf day + 1) := by
  have hlow : yearStart (400 * day / 146097 - 1) ≤ day := by
    simp only [yearStart]
    omega
  have hhigh : day < yearStart (400 * day / 146097 + 1 + 1) := by
    simp only [yearStart]
    omega
  simp only [yearOf]
  split
  · rename_i hbefore
    exact ⟨hlow, by rwa [Int.sub_add_cancel]⟩
  · rename_i hnot
    split
    · rename_i hafter
      exact ⟨hafter, hhigh⟩
    · rename_i hbefore
      exact ⟨Int.not_lt.mp hnot, Int.not_le.mp hbefore⟩

theorem monthAndDay_spec {lengths : List Nat} {n : Nat} (h : n < sumOf lengths) :
    1 ≤ (monthAndDay lengths n).1 ∧ (monthAndDay lengths n).1 ≤ lengths.length ∧
      1 ≤ (monthAndDay lengths n).2 ∧
      (monthAndDay lengths n).2 ≤ lengths.getD ((monthAndDay lengths n).1 - 1) 0 ∧
      sumOf (lengths.take ((monthAndDay lengths n).1 - 1)) + (monthAndDay lengths n).2 = n + 1 := by
  induction lengths generalizing n with
  | nil => cases h
  | cons length rest ih =>
      rw [sumOf] at h
      by_cases hn : n < length
      · simp only [monthAndDay, hn, if_true]
        simp [sumOf]
        omega
      · have hrest : n - length < sumOf rest := by omega
        obtain ⟨hmonth, hcount, hday, hlast, hsum⟩ := ih hrest
        simp only [monthAndDay, hn, if_false]
        generalize monthAndDay rest (n - length) = found at *
        obtain ⟨month, day⟩ := found
        obtain ⟨m, rfl⟩ : ∃ m, month = m + 1 := ⟨month - 1, by simp only at hmonth; omega⟩
        simp only [Nat.add_sub_cancel, List.length_cons, List.getD_cons_succ, List.take_succ_cons,
          sumOf] at *
        omega

end Calendar

namespace Date

open Calendar

theorem toDay_first (year : Int) : toDay ⟨year, 1, 1⟩ = yearStart year - epoch := by
  simp only [toDay, Nat.sub_self, List.take_zero, sumOf]
  omega

theorem dayOfYear_lt (day : Int) :
    (day - yearStart (yearOf day)).toNat < sumOf (monthLengths (isLeap (yearOf day))) := by
  obtain ⟨hstart, hend⟩ := yearStart_yearOf day
  rw [yearStart_succ] at hend
  omega

theorem toDay_ofDay (day : Int) : (ofDay day).toDay = day := by
  obtain ⟨hmonth, -, hday, -, hsum⟩ := monthAndDay_spec (dayOfYear_lt (day + epoch))
  obtain ⟨hstart, -⟩ := yearStart_yearOf (day + epoch)
  simp only [toDay, ofDay]
  omega

theorem isValid_ofDay (day : Int) : (ofDay day).isValid = true := by
  obtain ⟨hmonth, hcount, hday, hlast, -⟩ := monthAndDay_spec (dayOfYear_lt (day + epoch))
  simp only [isValid, ofDay, Bool.and_eq_true]
  exact ⟨⟨⟨decide_eq_true hmonth, decide_eq_true hcount⟩, decide_eq_true hday⟩,
    decide_eq_true hlast⟩

theorem le_of_isValid {d : Date} (h : d.isValid = true) : d.month ≤ 12 ∧ d.day ≤ 31 := by
  simp only [isValid, Bool.and_eq_true] at h
  obtain ⟨⟨⟨-, hmonth⟩, -⟩, hday⟩ := h
  have hmonth := of_decide_eq_true hmonth
  have hlengths : ∀ leap, ∀ i < 12, (monthLengths leap).getD i 0 ≤ 31 := by decide
  have hlast := hlengths (isLeap d.year) (d.month - 1) (by omega)
  exact ⟨hmonth, Nat.le_trans (of_decide_eq_true hday) hlast⟩

theorem year_ofDay_le {day year : Int} (h : day < toDay ⟨year + 1, 1, 1⟩) :
    (ofDay day).year ≤ year := by
  obtain ⟨hstart, -⟩ := yearStart_yearOf (day + epoch)
  rw [toDay_first] at h
  refine Int.not_lt.mp fun hlater => ?_
  have hmono : yearStart (year + 1) ≤ yearStart (yearOf (day + epoch)) := yearStart_mono hlater
  omega

theorem le_year_ofDay {day year : Int} (h : toDay ⟨year, 1, 1⟩ ≤ day) :
    year ≤ (ofDay day).year := by
  obtain ⟨-, hend⟩ := yearStart_yearOf (day + epoch)
  rw [toDay_first] at h
  refine Int.not_lt.mp fun hearlier => ?_
  have hmono : yearStart (yearOf (day + epoch) + 1) ≤ yearStart year := yearStart_mono hearlier
  omega

end Date

end MailAudit
