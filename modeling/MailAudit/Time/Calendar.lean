import MailAudit.Sum

namespace MailAudit

structure Date where
  year : Int
  month : Nat
  day : Nat
  deriving DecidableEq, Repr

namespace Calendar

def isLeap (year : Int) : Bool :=
  year % 4 == 0 && (year % 100 != 0 || year % 400 == 0)

/-- Days from the start of year 0 to the start of `year`. -/
def yearStart (year : Int) : Int :=
  365 * year + (year + 3) / 4 - (year + 99) / 100 + (year + 399) / 400

/-- The year of a day counted from the start of year 0: the mean length of a year is
146097/400 days, which leaves an error of at most one year. -/
def yearOf (day : Int) : Int :=
  let guess := 400 * day / 146097
  if day < yearStart guess then guess - 1
  else if yearStart (guess + 1) ≤ day then guess + 1
  else guess

def monthLengths (leap : Bool) : List Nat :=
  [31, if leap then 29 else 28, 31, 30, 31, 30, 31, 31, 30, 31, 30, 31]

/-- The month and the day in it of a day counted from the start of the first of the months. -/
def monthAndDay : List Nat → Nat → Nat × Nat
  | [], n => (0, n + 1)
  | length :: rest, n =>
      if n < length then (1, n + 1)
      else
        let (month, day) := monthAndDay rest (n - length)
        (month + 1, day)

/-- The first of January 1970, counted from the start of year 0. -/
def epoch : Int := 719528

end Calendar

namespace Date

open Calendar

def ofDay (day : Int) : Date :=
  let n := day + epoch
  let year := yearOf n
  let (month, day) := monthAndDay (monthLengths (isLeap year)) (n - yearStart year).toNat
  ⟨year, month, day⟩

def isValid (d : Date) : Bool :=
  1 ≤ d.month && d.month ≤ 12 && 1 ≤ d.day &&
    d.day ≤ (monthLengths (isLeap d.year)).getD (d.month - 1) 0

def toDay (d : Date) : Int :=
  yearStart d.year + sumOf ((monthLengths (isLeap d.year)).take (d.month - 1)) + d.day - 1 - epoch

end Date

end MailAudit
