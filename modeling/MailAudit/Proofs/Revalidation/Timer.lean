import MailAudit.Proofs.Revalidation.Cut
import MailAudit.Revalidation.Timer
import Mathlib.Order.Monotone.Basic

/-! When passes start. The passes of a validator that nothing stops form a sequence, in which none
begins before the one before it has ended and none comes early. A validator that is stopped does
what these passes do before the stop, and no more. -/

namespace MailAudit.Revalidation

variable {σ : Type} {v : Validator σ} {duty : Duty σ} {alarm : Alarm} {world : σ} {stop : Nat}

theorem Round.listed_notMem_deeds (r : Round σ) : Act.listed ∉ r.deeds v duty := by
  rw [Round.deeds]
  cases r.check? v <;> cases r.failure? v duty <;> simp

/-- A pass that nothing stops: by which ticker it was due, when it starts, and the world it
finds. -/
structure Session (σ : Type) where
  ticker : Ticker
  start : Nat
  world : σ

namespace Session

variable {s : Session σ}

def diary (v : Validator σ) (duty : Duty σ) (s : Session σ) : Diary σ :=
  v.pass duty none { time := s.start, world := s.world }

def history (v : Validator σ) (duty : Duty σ) (s : Session σ) : List (Nat × Act) :=
  (s.diary v duty).history

def finish (v : Validator σ) (duty : Duty σ) (s : Session σ) : Nat := (s.diary v duty).time

def next (v : Validator σ) (duty : Duty σ) (alarm : Alarm) (s : Session σ) : Session σ :=
  let ticker := s.ticker.next s.start
  { ticker
    start := max (s.finish v duty) (alarm.ringsAt ticker.deadline)
    world := (s.diary v duty).world }

structure Bounded (v : Validator σ) (duty : Duty σ) (s : Session σ) : Prop where
  start_le_finish : s.start ≤ s.finish v duty
  lists : ∃ rest, s.history v duty = (s.start, .listed) :: rest ∧
    ∀ entry ∈ rest, entry.2 ≠ .listed ∧ s.start ≤ entry.1 ∧ entry.1 ≤ s.finish v duty

theorem bounded (v : Validator σ) (duty : Duty σ) (s : Session σ) : s.Bounded v duty := by
  let listing := v.source.domains s.world
  let e : Diary σ :=
    { time := s.start + listing.took.nanoseconds, world := listing.world,
      acts := [(s.start, .listed)] }
  have hgains : ∃ acts notes n, Act.listed ∉ acts ∧ Gains acts notes n e (s.diary v duty) := by
    rw [diary, Validator.pass]
    cases (v.source.domains s.world).answer with
    | error err =>
        exact ⟨_, _, _, List.not_mem_nil, Gains.noted e [v.unlisted err] 0⟩
    | ok domains =>
        refine ⟨_, _, _, fun hmem => ?_, Validator.gains_visits (d := e) rfl domains⟩
        obtain ⟨r, -, hmem⟩ := List.mem_flatMap.mp hmem
        exact r.listed_notMem_deeds hmem
  obtain ⟨acts, notes, n, hnever, hgains⟩ := hgains
  obtain ⟨timed, hhistory, rfl, hbounds⟩ := hgains.history
  have hstart : s.start ≤ e.time := Nat.le_add_right _ _
  refine ⟨Nat.le_trans hstart hgains.time_le, timed, hhistory,
    fun entry hmem => ⟨?_, ?_, (hbounds entry hmem).2⟩⟩
  · exact fun heq => hnever (List.mem_map.mpr ⟨entry, hmem, heq⟩)
  · exact Nat.le_trans hstart (hbounds entry hmem).1

theorem start_le_of_mem (v : Validator σ) (duty : Duty σ) (s : Session σ) :
    ∀ entry ∈ s.history v duty, s.start ≤ entry.1 := by
  intro entry hmem
  obtain ⟨rest, hhistory, hrest⟩ := (s.bounded v duty).lists
  rw [hhistory] at hmem
  rcases List.mem_cons.mp hmem with rfl | hmem
  · exact Nat.le_refl _
  · exact (hrest entry hmem).2.1

end Session

namespace Validator

def session (v : Validator σ) (duty : Duty σ) (alarm : Alarm) (world : σ) : Nat → Session σ
  | 0 => { ticker := { period := v.interval.nanoseconds }, start := alarm.ringsAt 0, world }
  | n + 1 => (session v duty alarm world n).next v duty alarm

theorem start_zero : (v.session duty alarm world 0).start = 0 := alarm.ringsAt_zero

theorem period_session (n : Nat) :
    (v.session duty alarm world n).ticker.period = v.interval.nanoseconds := by
  induction n with
  | zero => rfl
  | succ n ih => exact ih

theorem deadline_le_start (n : Nat) :
    (v.session duty alarm world n).ticker.deadline ≤ (v.session duty alarm world n).start := by
  cases n with
  | zero => exact Nat.zero_le _
  | succ n => exact Nat.le_trans (alarm.le_ringsAt _) (Nat.le_max_right _ _)

theorem finish_le_start_succ (n : Nat) :
    (v.session duty alarm world n).finish v duty ≤ (v.session duty alarm world (n + 1)).start :=
  Nat.le_max_left _ _

theorem start_le_start_succ (n : Nat) :
    (v.session duty alarm world n).start ≤ (v.session duty alarm world (n + 1)).start :=
  Nat.le_trans (Session.bounded v duty _).start_le_finish (finish_le_start_succ n)

theorem start_mono {i j : Nat} (h : i ≤ j) :
    (v.session duty alarm world i).start ≤ (v.session duty alarm world j).start :=
  monotone_nat_of_le_succ start_le_start_succ h

theorem deadline_succ (n : Nat) :
    (v.session duty alarm world (n + 1)).ticker.deadline =
      (if (v.session duty alarm world n).ticker.deadline + Ticker.leeway <
        (v.session duty alarm world n).start
        then (v.session duty alarm world n).start
          else (v.session duty alarm world n).ticker.deadline) +
        v.interval.nanoseconds := by
  have hperiod : (v.session duty alarm world n).ticker.period = v.interval.nanoseconds :=
    period_session n
  rw [← hperiod]
  rfl

theorem start_add_interval_le (n : Nat) :
    (v.session duty alarm world n).start + v.interval.nanoseconds ≤
      (v.session duty alarm world (n + 1)).start + Ticker.leeway := by
  have hnext : (v.session duty alarm world (n + 1)).ticker.deadline ≤
      (v.session duty alarm world (n + 1)).start :=
    deadline_le_start (n + 1)
  -- The next tick counts from this one if it was late, and from its deadline, up to the leeway
  -- before it, otherwise.
  rw [deadline_succ] at hnext
  split at hnext <;> omega

theorem mul_interval_le_deadline (n : Nat) :
    n * v.interval.nanoseconds ≤ (v.session duty alarm world n).ticker.deadline := by
  induction n with
  | zero => omega
  | succ n ih =>
      rw [deadline_succ, Nat.succ_mul]
      split <;> omega

theorem mul_interval_le_start (n : Nat) :
    n * v.interval.nanoseconds ≤ (v.session duty alarm world n).start :=
  Nat.le_trans (mul_interval_le_deadline n) (deadline_le_start n)

theorem le_start_self (stop : Nat) : stop ≤ (v.session duty alarm world stop).start :=
  Nat.le_trans (Nat.le_mul_of_pos_right stop v.interval_pos) (mul_interval_le_start stop)

def historyFrom (v : Validator σ) (duty : Duty σ) (alarm : Alarm) (world : σ) (i n : Nat) :
    List (Nat × Act) :=
  (List.range' i n).flatMap fun j => (v.session duty alarm world j).history v duty

theorem before_historyFrom_eq_nil {i n : Nat} (h : stop ≤ (v.session duty alarm world i).start) :
    before stop (v.historyFrom duty alarm world i n) = [] := by
  refine before_eq_nil fun entry hmem => ?_
  obtain ⟨j, hj, hmem⟩ := List.mem_flatMap.mp hmem
  have hlater : (v.session duty alarm world i).start ≤ (v.session duty alarm world j).start :=
    start_mono (List.mem_range'_1.mp hj).1
  exact Nat.le_trans h (Nat.le_trans hlater (Session.start_le_of_mem v duty _ entry hmem))

structure Awaits (alarm : Alarm) (s : Session σ) (d : Diary σ) : Prop where
  time : max d.time (alarm.ringsAt s.ticker.deadline) = s.start
  world : d.world = s.world
  going : d.stopped = false

variable {s : Session σ} {d : Diary σ}

theorem Awaits.timedPass (v : Validator σ) (duty : Duty σ) (h : Awaits alarm s d)
    (hahead : s.start < stop) :
    (v.timedPass duty (some stop) s.start d).history = d.history ++ before stop (s.history v duty) ∧
      (Awaits alarm (s.next v duty alarm) (v.timedPass duty (some stop) s.start d) ∨
        (v.timedPass duty (some stop) s.start d).stopped = true ∧ stop ≤ s.finish v duty) := by
  have habreast :
      Abreast stop d.history { d with time := s.start } { time := s.start, world := s.world } :=
    ⟨h.going, rfl, rfl, h.world, (List.append_nil _).symm,
      fun _ hmem => (List.not_mem_nil hmem).elim, hahead⟩
  have hbegins : ¬ stopsBy (some stop) s.start = true :=
    fun hstop => Nat.not_le.mpr hahead (of_decide_eq_true hstop)
  rw [Validator.timedPass, if_neg hbegins]
  rcases cut_pass v duty habreast with hon | hcut
  · rw [if_neg (Bool.eq_false_iff.mp hon.going)]
    refine ⟨?_, .inl ⟨congrArg (max · _) hon.time, hon.world, hon.going⟩⟩
    have hwhole : before stop (s.history v duty) = s.history v duty := before_eq_self hon.soFar
    rw [hwhole]
    exact hon.history
  · rw [if_pos hcut.ended]
    exact ⟨hcut.history, .inr ⟨hcut.ended, hcut.past⟩⟩

theorem history_passes_of_le {t : Ticker} {h : 0 < t.period}
    (hstop : stop ≤ max d.time (alarm.ringsAt t.deadline)) :
    (v.passes duty alarm stop t h d).history = d.history := by
  rw [passes]
  -- The stop is heard instead of the alarm, or else right after it.
  split
  · rfl
  · have hheard : v.timedPass duty (some stop) (max d.time (alarm.ringsAt t.deadline)) d =
        { d with stopped := true } :=
      if_pos (decide_eq_true hstop)
    simp only [hheard]
    rfl

theorem Awaits.passes_eq (h : Awaits alarm s d) (hahead : s.start < stop)
    (hperiod : 0 < s.ticker.period) :
    v.passes duty alarm stop s.ticker hperiod d =
      if (v.timedPass duty (some stop) s.start d).stopped = true then
        v.timedPass duty (some stop) s.start d
      else v.passes duty alarm stop (s.ticker.next s.start) hperiod
        (v.timedPass duty (some stop) s.start d) := by
  have hrings : ¬(stop < s.start ∨ stop = s.start ∧ alarm.beatsStop s.start = false) := by omega
  rw [passes]
  simp only [h.time]
  rw [if_neg hrings]
  rfl

theorem history_passes (n i : Nat) (hperiod : 0 < (v.session duty alarm world i).ticker.period)
    (h : Awaits alarm (v.session duty alarm world i) d)
    (hpast : stop ≤ (v.session duty alarm world (i + n)).start) :
    (v.passes duty alarm stop (v.session duty alarm world i).ticker hperiod d).history =
      d.history ++ before stop (v.historyFrom duty alarm world i n) := by
  -- By induction on the passes up to the stop, of which the next one starts when it would without a
  -- stop, in the same world.
  induction n generalizing i d with
  | zero =>
      rw [history_passes_of_le (h.time ▸ hpast)]
      exact (List.append_nil _).symm
  | succ n ih =>
      by_cases hahead : (v.session duty alarm world i).start < stop
      · obtain ⟨hhistory, hnext⟩ := h.timedPass v duty hahead
        rw [h.passes_eq hahead, historyFrom, List.range'_succ, List.flatMap_cons, before_append,
          ← List.append_assoc, ← hhistory]
        rcases hnext with hnext | ⟨hended, hover⟩
        · rw [if_neg (Bool.eq_false_iff.mp hnext.going)]
          exact ih (i + 1) hperiod hnext (Nat.add_right_comm i 1 n ▸ hpast)
        · have hlater :=
            before_historyFrom_eq_nil (n := n) (Nat.le_trans hover (finish_le_start_succ i))
          rw [if_pos hended]
          exact ((congrArg _ hlater).trans (List.append_nil _)).symm
      · have hended := Nat.le_of_not_lt hahead
        rw [history_passes_of_le (h.time ▸ hended), before_historyFrom_eq_nil hended,
          List.append_nil]

theorem history_run {n : Nat} (h : stop ≤ (v.session duty alarm world n).start) :
    (v.run duty alarm stop world).history = before stop (v.historyFrom duty alarm world 0 n) := by
  have hbegun : Awaits alarm (v.session duty alarm world 0) (Diary.note { world } [v.startNote]) :=
    ⟨Nat.zero_max _, rfl, rfl⟩
  exact history_passes n 0 v.interval_pos hbegun (by rwa [Nat.zero_add])

/-- Passes start at once, then each after the one before it, never early and never in a burst,
however long they take. A validator that is stopped does what these passes do before the stop and
nothing else, whichever of the two is heard first when a pass is due at the stop. -/
theorem passes_neither_overlap_nor_outlive_stop (name : String) (interval : Duration)
    (source : Source σ) (duty : Duty σ) (alarm : Alarm) (world : σ) :
    let v := Validator.of name interval source
    let pass := v.session duty alarm world
    interval.nanoseconds ≤ v.interval.nanoseconds ∧
    (pass 0).start = 0 ∧
    (∀ n, (pass n).Bounded v duty ∧
      (pass n).finish v duty ≤ (pass (n + 1)).start ∧
      (pass n).start + v.interval.nanoseconds ≤ (pass (n + 1)).start + Ticker.leeway ∧
      (pass 0).start + n * v.interval.nanoseconds ≤ (pass n).start) ∧
    ∀ stop,
      stop ≤ (pass stop).start ∧
      (∀ n, stop ≤ (pass n).start →
        (v.run duty alarm stop world).history = before stop (v.historyFrom duty alarm world 0 n)) ∧
      ∀ entry ∈ (v.run duty alarm stop world).history, entry.1 < stop := by
  intro v pass
  refine ⟨Nat.le_max_right _ _, start_zero, fun n => ⟨?_, ?_, ?_, ?_⟩,
    fun stop => ⟨?_, fun n => history_run, ?_⟩⟩
  · exact Session.bounded v duty (pass n)
  · exact finish_le_start_succ n
  · exact start_add_interval_le n
  · rw [show (pass 0).start = 0 from start_zero, Nat.zero_add]
    exact mul_interval_le_start n
  · exact le_start_self stop
  · intro entry hmem
    rw [history_run (le_start_self stop)] at hmem
    exact of_decide_eq_true (List.mem_filter.mp hmem).2

/-- Checks that take 50, 3, 24 and 3 ms, every 20 ms: the second pass is put off, the fourth is 4 ms
late and the fifth comes 16 ms after it. A stop at 96 ms cuts the fourth check off before it is
reported. -/
theorem overrun_delays_and_stop_cuts :
    let source : Source Nat :=
      ⟨fun n => ⟨.ok ["a.test"], ⟨0⟩, n⟩, fun domain n => ⟨.ok ["mx." ++ domain], ⟨0⟩, n⟩⟩
    let duty : Duty Nat :=
      ⟨fun domain _ n =>
        ⟨.withoutMailService domain "No MX records found" default,
          .ofMilliseconds ([50, 3, 24, 3].getD n 1), n + 1⟩,
        fun _ _ _ => []⟩
    let v := Validator.of "policies" (.ofMilliseconds 20) source
    let stop := (Duration.ofMilliseconds 96).nanoseconds
    (List.range 5).map (fun n => (v.session duty .coarse 0 n).start / 1000000) =
      [0, 50, 70, 94, 110] ∧
    stop ≤ (v.session duty .coarse 0 4).start ∧
    (v.run duty .coarse stop 0).history = before stop (v.historyFrom duty .coarse 0 0 4) ∧
    (v.run duty .coarse stop 0).checks.map (fun entry => entry.1 / 1000000) = [0, 50, 70, 94] ∧
    (v.run duty .coarse stop 0).reports.map (fun entry => entry.1 / 1000000) = [50, 53, 94] := by
  intro source duty v stop
  obtain ⟨-, -, -, hruns⟩ :=
    passes_neither_overlap_nor_outlive_stop "policies" (.ofMilliseconds 20) source duty .coarse 0
  obtain ⟨-, hstops, -⟩ := hruns stop
  have hfifth : stop ≤ (v.session duty .coarse 0 4).start := by decide +kernel
  have hrun : (v.run duty .coarse stop 0).history =
      before stop (v.historyFrom duty .coarse 0 0 4) := hstops 4 hfifth
  refine ⟨by decide +kernel, hfifth, hrun, ?_, ?_⟩
  · rw [Diary.checks, hrun]
    decide +kernel
  · rw [Diary.reports, hrun]
    decide +kernel

end Validator

end MailAudit.Revalidation
