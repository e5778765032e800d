import MailAudit.Revalidation.Pass
import Mathlib.Data.List.Basic

namespace MailAudit.Revalidation

variable {σ : Type} {v : Validator σ} {duty : Duty σ} {d : Diary σ}

namespace Diary

def deeds (d : Diary σ) : List Act := d.history.map Prod.snd

def examined (d : Diary σ) : List (String × List String) := d.checks.map Prod.snd

def announced (d : Diary σ) : List (String × DomainReport) := d.reports.map Prod.snd

theorem filterMap_deeds {β : Type} (d : Diary σ) (f : Act → Option β) :
    (d.history.filterMap fun (time, act) => (f act).map fun b => (time, b)).map Prod.snd =
      d.deeds.filterMap f := by
  rw [deeds, List.map_filterMap, List.filterMap_map]
  refine congrArg (fun g => List.filterMap g d.history) (funext fun entry => ?_)
  rw [Option.map_map]
  exact Option.map_id'

theorem examined_eq (d : Diary σ) : d.examined = d.deeds.filterMap Act.check? :=
  d.filterMap_deeds Act.check?

theorem announced_eq (d : Diary σ) : d.announced = d.deeds.filterMap Act.report? :=
  d.filterMap_deeds Act.report?

end Diary

/-- The second diary goes on from the first one with these acts, notes and reported failures, and in
the meantime the clock has not gone back. -/
structure Gains (acts : List Act) (notes : List Note) (failures : Nat) (d d' : Diary σ) : Prop where
  history : ∃ timed, d'.history = d.history ++ timed ∧ timed.map Prod.snd = acts ∧
    ∀ entry ∈ timed, d.time ≤ entry.1 ∧ entry.1 ≤ d'.time
  time_le : d.time ≤ d'.time
  notes : d'.notes.reverse = d.notes.reverse ++ notes
  reported : d'.reported = d.reported + failures
  stopped : d'.stopped = d.stopped

namespace Gains

variable {d' d'' : Diary σ} {acts acts' : List Act} {notes notes' : List Note} {n n' : Nat}

theorem deeds (h : Gains acts notes n d d') : d'.deeds = d.deeds ++ acts := by
  obtain ⟨timed, hhistory, rfl, -⟩ := h.history
  rw [Diary.deeds, hhistory, List.map_append]
  rfl

theorem of_history_eq (hhistory : d'.history = d.history) (htime : d.time ≤ d'.time)
    (hnotes : d'.notes.reverse = d.notes.reverse ++ notes)
    (hreported : d'.reported = d.reported + n) (hstopped : d'.stopped = d.stopped) :
    Gains [] notes n d d' :=
  ⟨⟨[], hhistory.trans (List.append_nil _).symm, rfl, fun _ h => (List.not_mem_nil h).elim⟩, htime,
    hnotes, hreported, hstopped⟩

theorem moved {time : Nat} (h : d.time ≤ time) (world : σ) :
    Gains [] [] 0 d { d with time, world } :=
  of_history_eq rfl h (List.append_nil _).symm rfl rfl

theorem refl (d : Diary σ) : Gains [] [] 0 d d := moved (Nat.le_refl d.time) d.world

theorem trans (h : Gains acts notes n d d') (h' : Gains acts' notes' n' d' d'') :
    Gains (acts ++ acts') (notes ++ notes') (n + n') d d'' := by
  constructor
  case history =>
    obtain ⟨timed, hhistory, rfl, hbounds⟩ := h.history
    obtain ⟨timed', hhistory', rfl, hbounds'⟩ := h'.history
    refine ⟨timed ++ timed', ?_, List.map_append, fun entry hmem => ?_⟩
    · rw [hhistory', hhistory, List.append_assoc]
    · rcases List.mem_append.mp hmem with hmem | hmem
      · exact ⟨(hbounds entry hmem).1, Nat.le_trans (hbounds entry hmem).2 h'.time_le⟩
      · exact ⟨Nat.le_trans h.time_le (hbounds' entry hmem).1, (hbounds' entry hmem).2⟩
  case time_le => exact Nat.le_trans h.time_le h'.time_le
  case notes => rw [h'.notes, h.notes, List.append_assoc]
  case reported => rw [h'.reported, h.reported, Nat.add_assoc]
  case stopped => rw [h'.stopped, h.stopped]

theorem written (d : Diary σ) (act : Act) : Gains [act] [] 0 d (d.write act) := by
  refine ⟨⟨[(d.time, act)], List.reverse_cons, rfl, ?_⟩, Nat.le_refl _,
    (List.append_nil _).symm, rfl, rfl⟩
  intro entry hmem
  rw [List.mem_singleton.mp hmem]
  exact ⟨Nat.le_refl _, Nat.le_refl _⟩

theorem noted (d : Diary σ) (notes : List Note) (n : Nat) :
    Gains [] notes n d { d.note notes with reported := d.reported + n } := by
  refine of_history_eq rfl (Nat.le_refl _) ?_ rfl rfl
  rw [Diary.note, List.reverse_append, List.reverse_reverse]

theorem awaited {act : Act} {took : Duration} {world : σ} {goOn : Diary σ → Diary σ}
    (h : ∀ e : Diary σ, e.world = world → e.stopped = d.stopped → Gains acts notes n e (goOn e)) :
    Gains (act :: acts) notes n d ((d.write act).await none took world goOn) := by
  have hmoved : Gains [act] [] 0 d { d.write act with time := d.time + took.nanoseconds, world } :=
    (written d act).trans (moved (Nat.le_add_right (d.write act).time took.nanoseconds) world)
  have hgone := hmoved.trans (h _ rfl rfl)
  rwa [Nat.zero_add] at hgone

end Gains

structure Round (σ : Type) where
  domain : String
  world : σ

namespace Round

def found (v : Validator σ) (r : Round σ) : Answered (List String) σ :=
  v.source.hostsOf r.domain r.world

def check? (v : Validator σ) (r : Round σ) : Option (String × List String) :=
  (r.found v).answer.toOption.map fun hosts => (r.domain, hosts)

def checked? (v : Validator σ) (duty : Duty σ) (r : Round σ) : Option (Checked σ) :=
  (r.found v).answer.toOption.map fun hosts => duty.check r.domain hosts (r.found v).world

def failing (domain : String) (report : DomainReport) : Option (String × DomainReport) :=
  if report.verdict = .success then none else some (domain, report)

def failure? (v : Validator σ) (duty : Duty σ) (r : Round σ) : Option (String × DomainReport) :=
  (r.checked? v duty).bind fun c => failing r.domain c.report

def deeds (v : Validator σ) (duty : Duty σ) (r : Round σ) : List Act :=
  .consulted r.domain ::
    ((r.check? v).toList.map (fun (domain, hosts) => Act.checked domain hosts) ++
    (r.failure? v duty).toList.map fun (domain, report) => Act.reported domain report)

def announcements (v : Validator σ) (duty : Duty σ) (failure? : Option (String × DomainReport)) :
    List Note :=
  failure?.toList.flatMap fun (domain, report) => duty.announce v.name domain report

def notes (v : Validator σ) (duty : Duty σ) (r : Round σ) : List Note :=
  match (r.found v).answer with
  | .error e => [v.unknownHosts r.domain e]
  | .ok _ => announcements v duty (r.failure? v duty)

def after (v : Validator σ) (duty : Duty σ) (r : Round σ) : σ :=
  match r.checked? v duty with
  | none => (r.found v).world
  | some c => c.world

theorem filterMap_check?_deeds (r : Round σ) :
    (r.deeds v duty).filterMap Act.check? = (r.check? v).toList := by
  rw [deeds]
  cases r.check? v <;> cases r.failure? v duty <;> rfl

theorem filterMap_report?_deeds (r : Round σ) :
    (r.deeds v duty).filterMap Act.report? = (r.failure? v duty).toList := by
  rw [deeds]
  cases r.check? v <;> cases r.failure? v duty <;> rfl

end Round

namespace Validator

theorem gains_conclude (domain : String) (report : DomainReport) (d : Diary σ) :
    Gains
      ((Round.failing domain report).toList.map fun (domain, report) => Act.reported domain report)
      (Round.announcements v duty (Round.failing domain report))
        (Round.failing domain report).toList.length d
      (v.conclude duty domain report d) := by
  have hpassed : report.verdict.isSuccess = true ↔ report.verdict = .success := beq_iff_eq
  simp only [conclude, Round.failing, hpassed]
  split
  · exact Gains.refl d
  · have hwritten := Gains.written d (.reported domain report)
    have hnoted :=
      Gains.noted (d.write (.reported domain report)) (duty.announce v.name domain report) 1
    rw [Round.announcements, Option.toList_some, List.flatMap_singleton]
    exact hwritten.trans hnoted

theorem world_conclude (domain : String) (report : DomainReport) (d : Diary σ) :
    (v.conclude duty domain report d).world = d.world := by
  rw [conclude]
  split <;> rfl

theorem gains_examine (domain : String) (hosts : List String) (d : Diary σ) :
    Gains (.checked domain hosts ::
        (Round.failing domain (duty.check domain hosts d.world).report).toList.map fun (domain,
          report) =>
          Act.reported domain report)
      (Round.announcements v duty (Round.failing domain (duty.check domain hosts d.world).report))
      (Round.failing domain (duty.check domain hosts d.world).report).toList.length d
      (v.examine duty none domain hosts d) :=
  Gains.awaited fun e _ _ => gains_conclude domain _ e

theorem gains_visit (v : Validator σ) (duty : Duty σ) (h : d.stopped = false) (domain : String) :
    Gains (Round.deeds v duty ⟨domain, d.world⟩) (Round.notes v duty ⟨domain, d.world⟩)
      (Round.failure? v duty ⟨domain, d.world⟩).toList.length d (v.visit duty none d domain) := by
  rw [visit, if_neg (Bool.eq_false_iff.mp h)]
  refine Gains.awaited fun e hworld _ => ?_
  simp only [Round.notes, Round.failure?, Round.checked?, Round.check?, Round.found]
  cases (v.source.hostsOf domain d.world).answer with
  | error e => exact Gains.noted _ _ 0
  | ok hosts =>
      rw [← hworld]
      exact gains_examine domain hosts e

theorem world_visit (h : d.stopped = false) (domain : String) :
    (v.visit duty none d domain).world = Round.after v duty ⟨domain, d.world⟩ := by
  rw [visit, if_neg (Bool.eq_false_iff.mp h)]
  simp only [Round.after, Round.checked?, Round.found]
  cases (v.source.hostsOf domain d.world).answer with
  | error e => rfl
  | ok hosts => exact world_conclude domain _ _

def rounds (v : Validator σ) (duty : Duty σ) : List String → σ → List (Round σ)
  | [], _ => []
  | domain :: rest, world =>
      let r : Round σ := ⟨domain, world⟩
      r :: rounds v duty rest (r.after v duty)

def worldAfter (v : Validator σ) (duty : Duty σ) (domains : List String) (world : σ) : σ :=
  domains.foldl (fun world domain => Round.after v duty ⟨domain, world⟩) world

theorem map_domain_rounds (domains : List String) (world : σ) :
    (v.rounds duty domains world).map Round.domain = domains := by
  induction domains generalizing world with
  | nil => rfl
  | cons domain rest ih => exact congrArg (List.cons domain) (ih _)

theorem rounds_append (before after : List String) (world : σ) :
    v.rounds duty (before ++ after) world =
      v.rounds duty before world ++ v.rounds duty after (v.worldAfter duty before world) := by
  induction before generalizing world with
  | nil => rfl
  | cons domain rest ih => exact congrArg (List.cons _) (ih _)

theorem gains_visits (h : d.stopped = false) (domains : List String) :
    Gains ((v.rounds duty domains d.world).flatMap (Round.deeds v duty))
      ((v.rounds duty domains d.world).flatMap (Round.notes v duty))
      ((v.rounds duty domains d.world).flatMap fun r => (r.failure? v duty).toList).length d
      (domains.foldl (v.visit duty none) d) := by
  induction domains generalizing d with
  | nil => exact Gains.refl d
  | cons domain rest ih =>
      have hvisit := gains_visit v duty h domain
      have hrest := ih (hvisit.stopped.trans h)
      rw [world_visit h] at hrest
      have hboth := hvisit.trans hrest
      rw [← List.length_append] at hboth
      exact hboth

variable {world : σ}

theorem gains_pass_of_unlisted (duty : Duty σ) {e : StoreError}
    (h : (v.source.domains world).answer = .error e) :
    Gains [.listed] [v.unlisted e] 0 { world } (v.pass duty none { world }) := by
  rw [pass]
  refine Gains.awaited fun d _ _ => ?_
  simp only [h]
  exact Gains.noted d [v.unlisted e] 0

theorem gains_pass (duty : Duty σ) {domains : List String}
    (h : (v.source.domains world).answer = .ok domains) :
    Gains (.listed ::
      (v.rounds duty domains (v.source.domains world).world).flatMap (Round.deeds v duty))
      ((v.rounds duty domains (v.source.domains world).world).flatMap (Round.notes v duty))
      ((v.rounds duty domains (v.source.domains world).world).filterMap
        (Round.failure? v duty)).length
      { world } (v.pass duty none { world }) := by
  rw [pass, List.filterMap_eq_flatMap_toList]
  refine Gains.awaited fun d hworld hstopped => ?_
  simp only [h]
  rw [← hworld]
  exact gains_visits hstopped domains

end Validator

structure Accounts (v : Validator σ) (duty : Duty σ) (domains : List String) (world : σ)
    (d : Diary σ) : Prop where
  turns : (v.rounds duty domains world).map Round.domain = domains
  deeds : d.deeds = .listed :: (v.rounds duty domains world).flatMap (Round.deeds v duty)
  examined : d.examined = (v.rounds duty domains world).filterMap (Round.check? v)
  announced : d.announced = (v.rounds duty domains world).filterMap (Round.failure? v duty)
  reported : d.reported = d.announced.length
  notes : d.notes.reverse = (v.rounds duty domains world).flatMap (Round.notes v duty)

namespace Validator

variable {world : σ} {domains : List String}

theorem accounts_pass (duty : Duty σ) (h : (v.source.domains world).answer = .ok domains) :
    Accounts v duty domains (v.source.domains world).world (v.pass duty none { world }) := by
  have hgains := gains_pass duty h
  have hdeeds := hgains.deeds
  have hannounced : (v.pass duty none { world }).announced =
      (v.rounds duty domains (v.source.domains world).world).filterMap (Round.failure? v duty) := by
    rw [Diary.announced_eq, hdeeds, List.filterMap_eq_flatMap_toList (Round.failure? v duty)]
    change List.filterMap Act.report? (List.flatMap _ _) = _
    rw [List.filterMap_flatMap]
    simp only [Round.filterMap_report?_deeds]
  constructor
  case turns => exact map_domain_rounds domains _
  case deeds => exact hdeeds
  case examined =>
    rw [Diary.examined_eq, hdeeds, List.filterMap_eq_flatMap_toList (Round.check? v)]
    change List.filterMap Act.check? (List.flatMap _ _) = _
    rw [List.filterMap_flatMap]
    simp only [Round.filterMap_check?_deeds]
  case announced => exact hannounced
  case reported => rw [hannounced, hgains.reported, Nat.zero_add]
  case notes => exact hgains.notes

/-- A pass that nothing stops reports exactly the domains whose verdict is no success, each within
its own turn. A look-up that fails takes nothing but the check of its own domain: the other turns
are those of the list without it, in the worlds that the look-up leaves them. -/
theorem failures_are_reported_in_turn (v : Validator σ) (duty : Duty σ) (world : σ) :
    (∀ e, (v.source.domains world).answer = .error e →
      (v.pass duty none { world }).deeds = [.listed] ∧ (v.pass duty none { world }).reported = 0 ∧
      (v.pass duty none { world }).notes = [v.unlisted e]) ∧
    ∀ domains, (v.source.domains world).answer = .ok domains →
      let listed := (v.source.domains world).world
      Accounts v duty domains listed (v.pass duty none { world }) ∧
      ∀ before domain after e, domains = before ++ domain :: after →
        let turn : Round σ := ⟨domain, v.worldAfter duty before listed⟩
        (turn.found v).answer = .error e →
          turn.deeds v duty = [.consulted domain] ∧ turn.notes v duty = [v.unknownHosts domain e] ∧
          v.rounds duty domains listed =
            v.rounds duty before listed ++ turn :: v.rounds duty after (turn.found v).world ∧
          ((turn.found v).world = turn.world →
            v.rounds duty (before ++ after) listed =
              v.rounds duty before listed ++ v.rounds duty after (turn.found v).world) := by
  constructor
  · intro e hunlisted
    have hgains := gains_pass_of_unlisted duty hunlisted
    exact ⟨hgains.deeds, hgains.reported, List.reverse_inj.mp hgains.notes⟩
  · intro domains hlisted listed
    refine ⟨accounts_pass duty hlisted, ?_⟩
    rintro before domain after e rfl turn hlost
    have hcheck : turn.check? v = none := by
      rw [Round.check?, hlost]
      rfl
    have hchecked : turn.checked? v duty = none := by
      rw [Round.checked?, hlost]
      rfl
    have hafter : turn.after v duty = (turn.found v).world := by
      rw [Round.after, hchecked]
    refine ⟨?_, ?_, ?_, ?_⟩
    · rw [Round.deeds, Round.failure?, hcheck, hchecked]
      rfl
    · rw [Round.notes, hlost]
    · rw [rounds_append, rounds, hafter]
    · intro hsame
      rw [rounds_append, hsame]

theorem third_lookup_fails_alone :
    let source : Source Nat :=
      ⟨fun n => ⟨if n = 9 then .error (.unavailable "database is down")
        else .ok ["a.test", "b.test", "a.test"], ⟨0⟩, n⟩, fun domain n =>
          ⟨if n = 2 then .error (.unavailable "database is down")
            else .ok ["mx." ++ domain], ⟨0⟩, n + 1⟩⟩
    let duty : Duty Nat :=
      ⟨fun domain _ n =>
        ⟨if domain = "b.test" then .withoutMailService domain "No MX records found" default
          else { DomainReport.withoutMailService domain "" default with verdict := .success },
          .ofMilliseconds 3, n⟩,
        fun validator domain _ => [.log .warn .revalidation (validator ++ " " ++ domain)]⟩
    let validator := Validator.of "policies" leastInterval source
    let lost : Round Nat := ⟨"a.test", 2⟩
    (source.domains 9).answer = .error (.unavailable "database is down") ∧
    (validator.pass duty none { world := 9 }).deeds = [.listed] ∧
    (source.domains 0).answer = .ok (["a.test", "b.test"] ++ "a.test" :: []) ∧
    (lost.found validator).answer = .error (.unavailable "database is down") ∧
    Accounts validator duty ["a.test",
      "b.test", "a.test"] 0 (validator.pass duty none { world := 0 }) ∧
    lost.deeds validator duty = [.consulted "a.test"] ∧
    (validator.pass duty none { world := 0 }).examined =
      [("a.test", ["mx.a.test"]), ("b.test", ["mx.b.test"])] ∧
    (validator.pass duty none { world := 0 }).announced.map Prod.fst = ["b.test"] ∧
    (validator.pass duty none { world := 0 }).reported = 1 := by
  intro source duty validator lost
  have hunlisted : (source.domains 9).answer = .error (.unavailable "database is down") := rfl
  have hlisted : (source.domains 0).answer = .ok (["a.test", "b.test"] ++ "a.test" :: []) := rfl
  have hlost : (lost.found validator).answer = .error (.unavailable "database is down") := rfl
  obtain ⟨hfirst, -⟩ := failures_are_reported_in_turn validator duty 9
  obtain ⟨-, hall⟩ := failures_are_reported_in_turn validator duty 0
  obtain ⟨haccounts, hskips⟩ := hall _ hlisted
  exact ⟨hunlisted, (hfirst _ hunlisted).1, hlisted, hlost, haccounts, (hskips _ _ _ _ rfl hlost).1,
    by decide +kernel, by decide +kernel, by decide +kernel⟩

end Validator

end MailAudit.Revalidation
