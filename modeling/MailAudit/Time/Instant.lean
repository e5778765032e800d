import MailAudit.Time.Calendar

namespace MailAudit

namespace Instant

def firstYear : Int := -262143

def lastYear : Int := 262142

def firstSecond : Int := Date.toDay ⟨firstYear, 1, 1⟩ * 86400

def lastSecond : Int := Date.toDay ⟨lastYear + 1, 1, 1⟩ * 86400 - 1

end Instant

/-- Seconds since the start of 1970 and nanoseconds in that second. A leap second is the
continuation of the last second of a minute beyond a thousand million nanoseconds. -/
structure Instant where
  seconds : Int
  nanos : Nat
  first_le : Instant.firstSecond ≤ seconds
  le_last : seconds ≤ Instant.lastSecond
  nanos_lt : nanos < 2000000000
  leap_at_end : 1000000000 ≤ nanos → seconds % 60 = 59
  deriving DecidableEq

namespace Instant

instance : Repr Instant where
  reprPrec t _ := "⟨" ++ repr t.seconds ++ ", " ++ repr t.nanos ++ "⟩"

def of? (seconds : Int) (nanos : Nat) : Option Instant :=
  if h : firstSecond ≤ seconds ∧ seconds ≤ lastSecond ∧ nanos < 2000000000 ∧
      (1000000000 ≤ nanos → seconds % 60 = 59) then
    some ⟨seconds, nanos, h.1, h.2.1, h.2.2.1, h.2.2.2⟩
  else none

instance : Inhabited Instant := ⟨⟨0, 0, by decide, by decide, by decide, by decide⟩⟩

def secondOfDay (t : Instant) : Int := t.seconds % 86400

/-- Nanoseconds from `u` to `t`. A leap second counts when one of the two lies in it or when the
other lies later on the clock. -/
def since (t u : Instant) : Int :=
  let leap : Int :=
    if u.secondOfDay < t.secondOfDay then (if 1000000000 ≤ u.nanos then 1 else 0)
    else if t.secondOfDay < u.secondOfDay then (if 1000000000 ≤ t.nanos then -1 else 0)
    else 0
  (t.seconds - u.seconds + leap) * 1000000000 + ((t.nanos : Int) - (u.nanos : Int))

/-- Milliseconds since the start of 1970, rounded down. -/
def milliseconds (t : Instant) : Int :=
  t.seconds * 1000 + ((t.nanos / 1000000 : Nat) : Int)

end Instant

abbrev Clock := Nat → Instant

end MailAudit
