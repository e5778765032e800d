import MailAudit.Time.Instant

namespace MailAudit

namespace Instant

def nanoseconds (t : Instant) : Int := t.seconds * 1000000000 + t.nanos

theorem milliseconds_rounds_down (t : Instant) :
    t.milliseconds * 1000000 ≤ t.nanoseconds ∧ t.nanoseconds < (t.milliseconds + 1) * 1000000 := by
  have hbelow := Nat.div_mul_le_self t.nanos 1000000
  have habove := Nat.lt_div_mul_add (a := t.nanos) (b := 1000000) (by decide)
  simp only [milliseconds, nanoseconds]
  omega

theorem since_eq {t u : Instant} (ht : t.nanos < 1000000000) (hu : u.nanos < 1000000000) :
    t.since u = t.nanoseconds - u.nanoseconds := by
  have hleap : ¬1000000000 ≤ t.nanos := Nat.not_le.mpr ht
  have hleap' : ¬1000000000 ≤ u.nanos := Nat.not_le.mpr hu
  simp only [since, nanoseconds, if_neg hleap, if_neg hleap', ite_self]
  omega

theorem nanoseconds_div_eq (t : Instant) : t.nanoseconds / 1000000 = t.milliseconds := by
  have hround := t.milliseconds_rounds_down
  omega

-- A leap second of `u` adds to the difference, and `t` has none that would take from it.
theorem nanoseconds_sub_le_since {t : Instant} (ht : t.nanos < 1000000000) (u : Instant) :
    t.nanoseconds - u.nanoseconds ≤ t.since u := by
  have hleap : ¬1000000000 ≤ t.nanos := Nat.not_le.mpr ht
  simp only [since, nanoseconds, if_neg hleap, ite_self]
  split
  · split <;> omega
  · omega

end Instant

structure Clock.Steady (clock : Clock) : Prop where
  noLeap : ∀ n, (clock n).nanos < 1000000000
  le_succ : ∀ n, (clock n).nanoseconds ≤ (clock (n + 1)).nanoseconds

theorem Clock.Steady.le {clock : Clock} (h : clock.Steady) {m n : Nat} (hle : m ≤ n) :
    (clock m).nanoseconds ≤ (clock n).nanoseconds := by
  induction hle with
  | refl => exact Int.le_refl _
  | step _ ih => exact Int.le_trans ih (h.le_succ _)

end MailAudit
