import MailAudit.Revalidation.Pass

/-! Passes on a timer, until a stop. The first is due at once. One that overruns its interval puts
off the next, so that passes neither overlap nor come in a burst. -/

namespace MailAudit.Revalidation

/-- When the next pass is due, in nanoseconds, and after how long the one after it. -/
structure Ticker where
  deadline : Nat := 0
  period : Nat
  deriving DecidableEq, Repr

namespace Ticker

/-- A pass that starts later than this after it was due puts off those after it. -/
def leeway : Nat := (Duration.ofMilliseconds 5).nanoseconds

def next (t : Ticker) (time : Nat) : Ticker :=
  { t with deadline := (if t.deadline + leeway < time then time else t.deadline) + t.period }

theorem deadline_lt_next {t : Ticker} {time : Nat} (h : 0 < t.period) :
    t.deadline < (t.next time).deadline := by
  simp only [next]
  split <;> omega

end Ticker

/-- When one is woken who waits for a moment: not before it, and at once for the first moment of
all. Where a stop comes just then, either of the two may be heard first. -/
structure Alarm where
  ringsAt : (due : Nat) → Nat
  beatsStop : (time : Nat) → Bool
  le_ringsAt : ∀ due, due ≤ ringsAt due
  ringsAt_zero : ringsAt 0 = 0

namespace Alarm

/-- Rings on whole milliseconds only. -/
def coarse : Alarm where
  ringsAt due := (due + 999999) / 1000000 * 1000000
  beatsStop _ := true
  le_ringsAt due := by omega
  ringsAt_zero := rfl

end Alarm

namespace Validator

variable {σ : Type}

def startNote (v : Validator σ) : Note :=
  .log .info .revalidation s!"Validator {v.name} started, interval {v.interval.text}"

def stopNote (v : Validator σ) : Note := .log .info .revalidation s!"Validator {v.name} stopped"

/-- A pass that is due at `time`, and what is noted at its end. A stop that has come by then is
heard before the pass is begun. -/
def timedPass (v : Validator σ) (duty : Duty σ) (stop : Option Nat) (time : Nat) (d : Diary σ) :
    Diary σ :=
  if stopsBy stop time then { d with stopped := true }
  else
    let after := v.pass duty stop { d with time }
    if after.stopped then after
    else
      after.note [.log .debug .revalidation
        s!"Validator {v.name} pass reported {after.reported - d.reported} failures"]

theorem lt_stop_of_going {v : Validator σ} {duty : Duty σ} {stop time : Nat} {d : Diary σ}
    (h : ¬ (v.timedPass duty (some stop) time d).stopped = true) : time < stop := by
  rw [timedPass] at h
  split at h
  · exact (h rfl).elim
  · rename_i hahead
    exact Nat.lt_of_not_le fun hle => hahead (decide_eq_true hle)

theorem interval_pos (v : Validator σ) : 0 < v.interval.nanoseconds :=
  Nat.lt_of_lt_of_le (by decide) v.least_le

def passes (v : Validator σ) (duty : Duty σ) (alarm : Alarm) (stop : Nat) (t : Ticker)
    (h : 0 < t.period) (d : Diary σ) : Diary σ :=
  let time := max d.time (alarm.ringsAt t.deadline)
  if stop < time ∨ stop = time ∧ alarm.beatsStop time = false then d
  else
    let after := v.timedPass duty (some stop) time d
    if _hs : after.stopped = true then after
    else passes v duty alarm stop (t.next time) h after
termination_by stop - t.deadline
decreasing_by
  have hahead : max d.time (alarm.ringsAt t.deadline) < stop := lt_stop_of_going _hs
  have hnext : t.deadline < (t.next (max d.time (alarm.ringsAt t.deadline))).deadline :=
    Ticker.deadline_lt_next h
  have hrings := alarm.le_ringsAt t.deadline
  have htime := Nat.le_max_right d.time (alarm.ringsAt t.deadline)
  omega

def run (v : Validator σ) (duty : Duty σ) (alarm : Alarm) (stop : Nat) (world : σ) : Diary σ :=
  let begun : Diary σ := Diary.note { world } [v.startNote]
  (v.passes duty alarm stop { period := v.interval.nanoseconds } v.interval_pos begun).note
    [v.stopNote]

end Validator

end MailAudit.Revalidation
