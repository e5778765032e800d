import MailAudit.Proofs.Revalidation.Pass

namespace MailAudit.Revalidation

variable {σ : Type} {v : Validator σ} {duty : Duty σ} {stop : Nat} {base : List (Nat × Act)}
  {c u u' : Diary σ}

def before (stop : Nat) (history : List (Nat × Act)) : List (Nat × Act) :=
  history.filter fun entry => entry.1 < stop

theorem before_eq_self {history : List (Nat × Act)} (h : ∀ entry ∈ history, entry.1 < stop) :
    before stop history = history :=
  List.filter_eq_self.mpr fun entry hmem => decide_eq_true (h entry hmem)

theorem before_eq_nil {history : List (Nat × Act)} (h : ∀ entry ∈ history, stop ≤ entry.1) :
    before stop history = [] :=
  List.filter_eq_nil_iff.mpr fun entry hmem hlt =>
    Nat.not_lt.mpr (h entry hmem) (of_decide_eq_true hlt)

theorem before_append (history history' : List (Nat × Act)) :
    before stop (history ++ history') = before stop history ++ before stop history' :=
  List.filter_append ..

theorem Gains.before_eq {acts : List Act} {notes : List Note} {n : Nat}
    (h : Gains acts notes n u u') (hpast : stop ≤ u.time) :
    before stop u'.history = before stop u.history := by
  obtain ⟨timed, hhistory, -, hbounds⟩ := h.history
  rw [hhistory, before_append,
    before_eq_nil fun entry hmem => Nat.le_trans hpast (hbounds entry hmem).1, List.append_nil]

structure Abreast (stop : Nat) (base : List (Nat × Act)) (c u : Diary σ) : Prop where
  going : c.stopped = false
  uncut : u.stopped = false
  time : c.time = u.time
  world : c.world = u.world
  history : c.history = base ++ u.history
  soFar : ∀ entry ∈ u.history, entry.1 < stop
  ahead : u.time < stop

structure CutOff (stop : Nat) (base : List (Nat × Act)) (c u : Diary σ) : Prop where
  ended : c.stopped = true
  uncut : u.stopped = false
  past : stop ≤ u.time
  history : c.history = base ++ before stop u.history

def Cut (stop : Nat) (base : List (Nat × Act)) (c u : Diary σ) : Prop :=
  Abreast stop base c u ∨ CutOff stop base c u

namespace Abreast

theorem written (h : Abreast stop base c u) (act : Act) :
    Abreast stop base (c.write act) (u.write act) := by
  have hwritten (d : Diary σ) : (d.write act).history = d.history ++ [(d.time, act)] :=
    List.reverse_cons
  constructor
  case going => exact h.going
  case uncut => exact h.uncut
  case time => exact h.time
  case world => exact h.world
  case history => rw [hwritten, hwritten, h.history, h.time, List.append_assoc]
  case soFar =>
    intro entry hmem
    rw [hwritten] at hmem
    rcases List.mem_append.mp hmem with hmem | hmem
    · exact h.soFar entry hmem
    · rw [List.mem_singleton.mp hmem]
      exact h.ahead
  case ahead => exact h.ahead

theorem noted (h : Abreast stop base c u) (notes : List Note) (n : Nat) :
    Abreast stop base { c.note notes with reported := c.reported + n }
      { u.note notes with reported := u.reported + n } :=
  ⟨h.going, h.uncut, h.time, h.world, h.history, h.soFar, h.ahead⟩

theorem awaited (h : Abreast stop base c u) {took : Duration} {world : σ}
    {goOn goOn' : Diary σ → Diary σ}
    (hon : ∀ e e', Abreast stop base e e' → e'.world = world → Cut stop base (goOn e) (goOn' e'))
    (hgains : ∀ e' : Diary σ, e'.stopped = false →
      ∃ acts notes n, Gains acts notes n e' (goOn' e')) :
    Cut stop base (c.await (some stop) took world goOn) (u.await none took world goOn') := by
  let e' : Diary σ := { u with time := u.time + took.nanoseconds, world }
  have hstops : stopsBy (some stop) (c.time + took.nanoseconds) = true ↔
      stop ≤ u.time + took.nanoseconds := by
    rw [h.time]
    exact decide_eq_true_iff
  simp only [Diary.await, hstops]
  split
  -- The answer comes too late for the first pass, and whatever the second one does with it comes
  -- later still.
  · rename_i hpast
    obtain ⟨acts, notes, n, hgains⟩ := hgains e' h.uncut
    refine .inr ⟨rfl, hgains.stopped.trans h.uncut, Nat.le_trans hpast hgains.time_le, ?_⟩
    have hsame : before stop e'.history = u.history := before_eq_self h.soFar
    exact h.history.trans (congrArg (base ++ ·) ((hgains.before_eq hpast).trans hsame).symm)
  · rename_i hahead
    exact hon _ e' ⟨h.going, h.uncut, congrArg (· + took.nanoseconds) h.time, rfl,
      h.history, h.soFar, Nat.lt_of_not_le hahead⟩ rfl

end Abreast

theorem CutOff.gains {acts : List Act} {notes : List Note} {n : Nat} (h : CutOff stop base c u)
    (hgains : Gains acts notes n u u') : CutOff stop base c u' := by
  refine ⟨h.ended, hgains.stopped.trans h.uncut, Nat.le_trans h.past hgains.time_le, ?_⟩
  rw [hgains.before_eq h.past]
  exact h.history

namespace Validator

theorem cut_conclude (h : Abreast stop base c u) (domain : String) (report : DomainReport) :
    Abreast stop base (v.conclude duty domain report c) (v.conclude duty domain report u) := by
  rw [conclude, conclude]
  split
  · exact h
  · exact (h.written _).noted _ 1

theorem cut_examine (h : Abreast stop base c u) (domain : String) (hosts : List String) :
    Cut stop base (v.examine duty (some stop) domain hosts c)
      (v.examine duty none domain hosts u) := by
  rw [examine, examine, h.world]
  refine (h.written _).awaited
    (fun e e' habreast _ => .inl (cut_conclude habreast domain _)) fun e' _ => ?_
  exact ⟨_, _, _, gains_conclude domain _ e'⟩

theorem cut_visit (h : Cut stop base c u) (domain : String) :
    Cut stop base (v.visit duty (some stop) c domain) (v.visit duty none u domain) := by
  rcases h with habreast | hcut
  · rw [visit, visit, if_neg (Bool.eq_false_iff.mp habreast.going),
      if_neg (Bool.eq_false_iff.mp habreast.uncut), habreast.world]
    refine (habreast.written _).awaited (fun e e' he _ => ?_) fun e' _ => ?_
    · cases (v.source.hostsOf domain u.world).answer with
      | ok hosts => exact cut_examine he domain hosts
      | error err => exact .inl (he.noted [v.unknownHosts domain err] 0)
    · cases (v.source.hostsOf domain u.world).answer with
      | ok hosts => exact ⟨_, _, _, gains_examine domain hosts e'⟩
      | error err => exact ⟨_, _, _, Gains.noted e' [v.unknownHosts domain err] 0⟩
  · rw [visit, if_pos hcut.ended]
    exact .inr (hcut.gains (gains_visit v duty hcut.uncut domain))

theorem cut_visits (h : Cut stop base c u) (domains : List String) :
    Cut stop base (domains.foldl (v.visit duty (some stop)) c)
      (domains.foldl (v.visit duty none) u) := by
  induction domains generalizing c u with
  | nil => exact h
  | cons domain rest ih => exact ih (cut_visit h domain)

theorem cut_pass (v : Validator σ) (duty : Duty σ) (h : Abreast stop base c u) :
    Cut stop base (v.pass duty (some stop) c) (v.pass duty none u) := by
  rw [pass, pass, h.world]
  refine (h.written _).awaited (fun e e' he _ => ?_) fun e' hon => ?_
  · cases (v.source.domains u.world).answer with
    | ok domains => exact cut_visits (.inl he) domains
    | error err => exact .inl (he.noted [v.unlisted err] 0)
  · cases (v.source.domains u.world).answer with
    | ok domains => exact ⟨_, _, _, gains_visits hon domains⟩
    | error err => exact ⟨_, _, _, Gains.noted e' [v.unlisted err] 0⟩

end Validator

end MailAudit.Revalidation
