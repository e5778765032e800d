import MailAudit.Proofs.DomainCheck.Crew
import MailAudit.Proofs.DomainCheck.Foresight

namespace MailAudit

theorem World.tally_eq_of_raised {w v : World} (h : w.raised = v.raised) : w.tally = v.tally := by
  have hcount : (fun c => w.tally.count c) = fun c => v.tally.count c := by
    funext c
    rw [w.tally_count, v.tally_count, h]
  exact congrArg Tally.mk hcount

def Services.oneByOne (s : Services) (clock : Clock) (delay : String → Nat) : Services :=
  { s with concurrency := 1, clock, delay }

namespace DomainCheck

variable {s : Services} {domain : String} {expected : List String} {fresh : String → Bool}
  {w v : World}

def outset (s : Services) (domain : String) (expected : List String) (fresh : String → Bool)
    (w : World) : Outset :=
  { domain, hosts := chosen s domain expected, world := (mxHosts s domain w).2, fresh }

theorem steady_outset {limit : Nat} (hfresh : KeepsFreshness s.clock fresh w limit) :
    (outset s domain expected fresh w).Steady s limit where
  nodup := nodup_chosen s domain expected
  fresh cache hcache key r hget t hle hlt :=
    hfresh cache ((mxHosts_spec s domain w).2.2.1 ▸ hcache) key r hget t
      ((mxHosts_spec s domain w).2.2.2 ▸ hle) hlt

theorem nodup_probes {probes : List Flight} {hosts : List String} (hnodup : hosts.Nodup)
    (h : (probes.reverse.map (·.hostname)).Sublist hosts) : (probes.map (·.hostname)).Nodup := by
  have hreverse := h.nodup hnodup
  rwa [List.map_reverse, List.nodup_reverse] at hreverse

def closingCounters (s : Services) (o : Outset) : Multiset Counter :=
  {.milestone .domainChecked} +
    if o.hosts.isEmpty then 0
    else ↑(Note.counters (s.policy o.domain (reportsBy (o.due s) o.hosts)).2)

structure Outcome (s : Services) (domain : String) (expected : List String) (o : Outset)
    (w₀ : World) (result : Result) (w : World) : Prop where
  report : result.report.untimed = verdictBy s (o.due s) domain expected
  probes : (result.probes.reverse.map (·.hostname)).Sublist o.hosts
  raised : w.raised = closingCounters s o + (o.hosts.map (o.hostCounters s)).sum +
    o.writesCounters (o.written o.hosts) + (openingCounters s domain + w₀.raised)
  uncached : w₀.cache = none → w.cache = none
  cached : ∀ before, w₀.cache = some before →
    ∃ after, w.cache = some after ∧ Written s o o.hosts before.store.backing after.store.backing

namespace Inquiry

variable {q r : Inquiry} {m : Move} {ms : List Move} {limit : Nat}

def Foreseen (s : Services) (domain : String) (expected : List String) (o : Outset) (w₀ : World) :
    Inquiry → World → Prop
  | asked name wanted, w => HostName.normalize name = domain ∧ wanted = expected ∧ w = w₀
  | scanning all hosts p, w => Sound s (o.due s) domain expected (.scanning all hosts p) ∧
      Probing.Follows s o p w ∧ p.scans.length ≤ max 1 s.concurrency
  | answered result, w => Outcome s domain expected o w₀ result w

theorem outcome_settle {report : DomainReport}
    (hopened : Opened s domain expected (.settled report))
    (hraised : v.raised = openingCounters s domain + w.raised) (hcache : v.cache = w.cache) :
    Outcome s domain expected (outset s domain expected fresh w) w { report }
      (finish { report } v) := by
  have hnone := hopened.chosen_eq_nil
  refine ⟨hopened.untimed_eq _, List.nil_sublist _, ?_, fun h => ?_, fun before h => ?_⟩
  · rw [(finish_spec _ _).1, hraised]
    simp [closingCounters, outset, hnone, Outset.written, Outset.writesCounters]
  · rw [(finish_spec _ _).2.1, hcache, h]
  · refine ⟨before, by rw [(finish_spec _ _).2.1, hcache, h], ?_⟩
    simp only [outset, hnone]
    exact .refl _ _ _

theorem outcome_conclude (ht : Timeless s) {w₀ : World} {all hosts : List String} {p : Probing}
    (hf : Foreseen s domain expected (outset s domain expected fresh w₀) w₀
      (.scanning all hosts p) w)
    (hdone : p.isDone = true) :
    Outcome s domain expected (outset s domain expected fresh w₀) w₀
      (DomainCheck.conclude s all hosts p w).1
      (finish (DomainCheck.conclude s all hosts p w).1
        (DomainCheck.conclude s all hosts p w).2) := by
  obtain ⟨hsound, hfollows, -⟩ := hf
  have hreport := sound_conclude ht.policy hsound hdone w
  obtain ⟨-, hprobes, hraised, hcache, -⟩ := conclude_spec s all hosts p w
  obtain ⟨rfl, rfl, hsome, hchosen, rfl, hplaces⟩ := hsound
  obtain ⟨-, hmxRaised, hmxCache, -⟩ := mxHosts_spec s p.domain w₀
  have hkeys := hplaces.keys_of_isDone hdone
  obtain ⟨hpending, hscans⟩ := Probing.isDone_iff.mp hdone
  have hcounters := hfollows.counters
  have hwritten : (outset s p.domain expected fresh w₀).written (p.reports.map Prod.fst) =
      (outset s p.domain expected fresh w₀).written (chosen s p.domain expected) :=
        hkeys.countP_eq _
  rw [Outset.owed, hpending, hscans, List.map_nil, List.map_nil, List.sum_nil, add_zero,
    add_zero, hwritten]
    at hcounters
  have hmap := map_untimed_ofList (nodup_chosen s p.domain expected) hkeys hplaces.reports
  have hpolicy := ht.policyCounters p.domain (.ofList p.reports)
    (reportsBy ((outset s p.domain expected fresh w₀).due s) (chosen s p.domain expected))
    (by rw [← hmap, HostReport.map_untimed_map_untimed])
  refine ⟨hreport, ?_, ?_, fun hnone => ?_, fun before hbefore => ?_⟩
  · rw [hprobes]
    exact hfollows.ordered.sublist_probes
  · rw [(finish_spec _ _).1, hraised, hcounters, hpolicy]
    simp only [outset, closingCounters, openingCounters, hsome, hchosen, hmxRaised,
      Bool.false_eq_true, if_false, zero_add]
    abel
  · rw [(finish_spec _ _).2.1, hcache]
    exact hfollows.cache.1 (hmxCache.trans hnone)
  · obtain ⟨after, hafter, hstore⟩ := hfollows.cache.2 before (hmxCache.trans hbefore)
    refine ⟨after, ?_, hstore.written.congr fun key _ => hkeys.mem_iff⟩
    rw [(finish_spec _ _).2.1, hcache, hafter]

theorem foreseen_step (ht : Timeless s) {w₀ : World}
    (hs : (outset s domain expected fresh w₀).Steady s limit)
    (hf : Foreseen s domain expected (outset s domain expected fresh w₀) w₀ q w)
    (hsettled : m = .scan .enter → q.Settled) (h : Step s q w m r v) (hlimit : v.ticks ≤ limit) :
    Foreseen s domain expected (outset s domain expected fresh w₀) w₀ r v := by
  cases h with
  | settle hopened hraised hcache hticks =>
      obtain ⟨rfl, rfl, rfl⟩ := hf
      exact outcome_settle hopened hraised hcache
  | embark hsome hchosen =>
      obtain ⟨rfl, rfl, rfl⟩ := hf
      exact ⟨sound_embark _ hsome hchosen, Probing.follows_outset s _, Nat.zero_le _⟩
  | scan hstep =>
      obtain ⟨⟨hall, hhosts, hsome, hchosen, hdomain, -⟩, hfollows, hroom⟩ := hf
      have hprobing := Probing.step_of_step? hstep
      have hnext := hfollows.step ht hs (fun hm => hsettled (congrArg Move.scan hm)) hprobing hlimit
      exact ⟨⟨hall, hhosts, hsome, hchosen, (Probing.domain_step hprobing).trans hdomain,
        hhosts ▸ hnext.places⟩, hnext, Probing.room_step hroom hprobing⟩
  | conclude hdone => exact outcome_conclude ht hf hdone

theorem Run.foreseen (ht : Timeless s) {w₀ : World}
    (hs : (outset s (HostName.normalize domain) expected fresh w₀).Steady s limit)
    (h : Run s (.asked domain expected) w₀ ms q v) (hlimit : v.ticks ≤ limit) :
    Foreseen s (HostName.normalize domain) expected
      (outset s (HostName.normalize domain) expected fresh w₀) w₀ q v := by
  -- The clock never goes back, so that the limit holds before the last move too.
  induction h with
  | refl => exact ⟨rfl, rfl, rfl⟩
  | tail _ hstep hsettled ih =>
      have hone := step_of_step? hstep
      exact foreseen_step ht hs (ih ((ticks_step hone).trans hlimit)) hsettled hone hlimit

def isSettled : Inquiry → Bool
  | scanning _ _ p => p.waiting.isEmpty
  | _ => true

def follow? (s : Services) (q : Inquiry) (w : World) : List Move → Option (Inquiry × World)
  | [] => some (q, w)
  | m :: ms =>
      if m = .scan .enter && !q.isSettled then none
      else (q.step? s w m).bind fun (r, v) => r.follow? s v ms

theorem settled_of_isSettled (h : q.isSettled = true) : q.Settled := by
  cases q with
  | scanning all hosts p => exact Probing.settled_iff.mpr (List.isEmpty_iff.mp h)
  | asked domain expected => trivial
  | answered result => trivial

theorem Run.follow {q₀ : Inquiry} {w₀ : World} (hrun : Run s q₀ w₀ ms q w) {more : List Move}
    (h : q.follow? s w more = some (r, v)) : Run s q₀ w₀ (ms ++ more) r v := by
  induction more generalizing q w ms with
  | nil =>
      cases h
      rwa [List.append_nil]
  | cons m more ih =>
      rw [follow?] at h
      split at h
      · cases h
      · rename_i hprompt
        obtain ⟨⟨next, u⟩, hstep, hrest⟩ := Option.bind_eq_some_iff.mp h
        have hsettled : m = .scan .enter → q.Settled := by
          intro hm
          refine settled_of_isSettled ?_
          simpa [hm] using hprompt
        have hall := ih (hrun.tail hstep hsettled) hrest
        rwa [List.append_assoc] at hall

theorem Run.outcome (ht : Timeless s) (hfresh : KeepsFreshness s.clock fresh w v.ticks)
    {result : Result} (h : Run s (.asked domain expected) w ms (.answered result) v) :
    Outcome s (HostName.normalize domain) expected
      (outset s (HostName.normalize domain) expected fresh w) w result v :=
  h.foreseen ht (steady_outset hfresh) (Nat.le_refl _)

theorem outcome_oneByOne (ht : Timeless s) {clock : Clock} {delay : String → Nat}
    (hfresh : KeepsFreshness clock fresh w
      (run (s.oneByOne clock delay) domain expected w).2.ticks) :
    Outcome s (HostName.normalize domain) expected
      (outset s (HostName.normalize domain) expected fresh w) w
      (run (s.oneByOne clock delay) domain expected w).1
      (run (s.oneByOne clock delay) domain expected w).2 := by
  obtain ⟨ms, hrun⟩ := exists_run (s.oneByOne clock delay) domain expected w
  have htimeless : Timeless (s.oneByOne clock delay) :=
    ⟨ht.probe, ht.probeCounters, ht.policy, ht.policyCounters⟩
  obtain ⟨hreport, hprobes, hraised, huncached, hcached⟩ := hrun.outcome htimeless hfresh
  refine ⟨hreport, hprobes, hraised, huncached, fun before hbefore => ?_⟩
  obtain ⟨after, hafter, hwritten⟩ := hcached before hbefore
  exact ⟨after, hafter, hwritten.kind, hwritten.same, hwritten.kept, hwritten.refused⟩

theorem scheduling_keeps_outcome (ht : Timeless s)
    (hfresh : KeepsFreshness s.clock fresh w v.ticks) (clock : Clock) (delay : String → Nat)
    (hfresh' : KeepsFreshness clock fresh w
      (run (s.oneByOne clock delay) domain expected w).2.ticks)
    (h : Run s (.asked domain expected) w ms q v) :
    ms.length ≤ 4 * (chosen s (HostName.normalize domain) expected).length + 2 ∧
    (q.isAnswered = false →
      ∃ m, (q.step? s v m).isSome = true ∧ (m = .scan .enter → q.Settled)) ∧
    (∀ all hosts p, q = .scanning all hosts p →
      hosts = chosen s (HostName.normalize domain) expected ∧
      p.inFlight ≤ max 1 s.concurrency ∧ (p.probes.reverse.map (·.hostname)).Sublist hosts ∧
      (p.probes.map (·.hostname)).Nodup) ∧
    ∀ result, q = .answered result →
      (result.probes.reverse.map (·.hostname)).Sublist
        (chosen s (HostName.normalize domain) expected) ∧
      (result.probes.map (·.hostname)).Nodup ∧
      result.report.untimed = (run (s.oneByOne clock delay) domain expected w).1.report.untimed ∧
      v.tally = (run (s.oneByOne clock delay) domain expected w).2.tally ∧
      (w.cache = none → v.cache = none) ∧
      ∀ before, w.cache = some before →
        ∃ after after', v.cache = some after ∧
          (run (s.oneByOne clock delay) domain expected w).2.cache = some after' ∧
          (RefusesAlike w → after.store.backing.SameButTimes after'.store.backing) := by
  have hforeseen := h.foreseen ht (steady_outset hfresh) (Nat.le_refl _)
  refine ⟨?_, exists_move v, ?_, ?_⟩
  · have hlength := h.length_add_work_le
    simp only [work] at hlength
    omega
  · rintro all hosts p rfl
    obtain ⟨⟨-, rfl, -⟩, hfollows, hroom⟩ := hforeseen
    have hprobes := hfollows.ordered.sublist_probes
    exact ⟨rfl, Probing.inFlight_le hroom, hprobes, nodup_probes (nodup_chosen _ _ _) hprobes⟩
  · rintro result rfl
    have hone := outcome_oneByOne ht hfresh'
    refine ⟨hforeseen.probes, nodup_probes (nodup_chosen _ _ _) hforeseen.probes,
      hforeseen.report.trans hone.report.symm,
      World.tally_eq_of_raised (hforeseen.raised.trans hone.raised.symm), hforeseen.uncached, ?_⟩
    intro before hbefore
    obtain ⟨after, hafter, hwritten⟩ := hforeseen.cached before hbefore
    obtain ⟨after', hafter', hwritten'⟩ := hone.cached before hbefore
    refine ⟨after, after', hafter, hafter', fun halike => hwritten.sameButTimes ?_ hwritten'⟩
    intro cache hcache
    exact halike cache ((mxHosts_spec s _ w).2.2.1 ▸ hcache)

theorem later_host_is_through_first :
    ∃ (s : Services) (fresh : String → Bool) (w v : World) (ms : List Move) (result : Result),
      Timeless s ∧ KeepsFreshness s.clock fresh w v.ticks ∧
      KeepsFreshness s.clock fresh w
        (DomainCheck.run (s.oneByOne s.clock s.delay) "example.org" [] w).2.ticks ∧
      Run s (.asked "example.org" []) w ms (.answered result) v ∧
      result.probes.reverse.map (·.hostname) = ["mx1.example", "mx3.example"] ∧
      result.mostInFlight = 2 ∧
      result.report.untimed =
        (DomainCheck.run (s.oneByOne s.clock s.delay) "example.org" [] w).1.report.untimed ∧
      v.tally = (DomainCheck.run (s.oneByOne s.clock s.delay) "example.org" [] w).2.tally ∧
      ∃ after after', v.cache = some after ∧
        (DomainCheck.run (s.oneByOne s.clock s.delay) "example.org" [] w).2.cache = some after' ∧
        after.store.backing.SameButTimes after'.store.backing := by
  let s : Services :=
    { clock := fun n => (Instant.of? n 0).getD default
      mx := fun _ => (.ok ["mx1.example", "mx2.example", "mx3.example"], [])
      probe := fun domain hostname now => (.observed domain hostname [.pass hostname] now, [])
      delay := fun hostname => if hostname = "mx1.example" then 20 else 10
      policy := fun _ _ => (none, [])
      concurrency := 2 }
  let known : HostReport := .observed "example.net" "mx2.example" [.pass "mx2.example"] default
  let w : World :=
    { cache := some ⟨{ backing := .memory (.ofList [("mx2.example", known)]) }, ⟨Nat.pow 10 25⟩⟩ }
  have htimeless : Timeless s :=
    ⟨fun _ _ _ _ => rfl, fun _ _ _ _ => rfl, fun _ _ _ _ => rfl, fun _ _ _ _ => rfl⟩
  have halike : RefusesAlike w := by
    intro cache hcache n n'
    cases hcache
    rfl
  have hfresh (limit : Nat) : KeepsFreshness s.clock (fun _ => true) w limit := by
    intro cache hcache key r hget t hle hlt
    cases hcache
    rfl
  obtain ⟨result, v, hfollow, hprobes, hmost⟩ : ∃ result v,
      (Inquiry.asked "example.org" []).follow? s w
        [.prepare, .scan .enter, .scan (.look 0), .scan .enter, .scan (.look 1), .scan .enter,
          .scan (.look 1), .scan (.land 1), .scan (.keep 1), .scan (.land 0), .scan (.keep 0),
          .conclude] = some (.answered result, v) ∧
      result.probes.reverse.map (·.hostname) = ["mx1.example", "mx3.example"] ∧
      result.mostInFlight = 2 := ⟨_, _, rfl, rfl, rfl⟩
  have hrun := Run.refl.follow hfollow
  have houtcome := (scheduling_keeps_outcome htimeless (hfresh _) s.clock s.delay (hfresh _)
    hrun).2.2.2 result rfl
  obtain ⟨-, -, hreport, htally, -, hcaches⟩ := houtcome
  obtain ⟨after, after', hafter, hafter', hstores⟩ := hcaches _ rfl
  exact ⟨s, _, w, v, _, result, htimeless, hfresh _, hfresh _, hrun, hprobes, hmost,
    hreport, htally, after, after', hafter, hafter', hstores halike⟩

end Inquiry

end DomainCheck

end MailAudit
