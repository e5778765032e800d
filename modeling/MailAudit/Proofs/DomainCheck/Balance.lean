import MailAudit.Proofs.DomainCheck.Counting
import MailAudit.Proofs.DomainCheck.Events
import Mathlib.Algebra.BigOperators.Group.List.Basic
import Mathlib.Algebra.GroupWithZero.Nat
import Mathlib.Algebra.Order.BigOperators.Group.List
import Mathlib.Algebra.Order.Group.Nat

namespace MailAudit

namespace DomainCheck

namespace Event

def counters : Event → List Counter
  | asked (.error _) => [.failure .mxLookup]
  | read (.error _) => [.failure .cacheRead]
  | reused => [.milestone .cacheHit]
  | written (.error _) => [.failure .cacheWrite]
  | _ => []

theorem count_counters (e : Event) :
    e.counters.count (.failure .mxLookup) = e.isFailedLookup.toNat ∧
      e.counters.count (.failure .cacheRead) = e.isFailedRead.toNat ∧
      e.counters.count (.milestone .cacheHit) = e.isReuse.toNat ∧
      e.counters.count (.failure .cacheWrite) = e.isFailedWrite.toNat := by
  cases e with
  | asked answer => cases answer <;> exact ⟨rfl, rfl, rfl, rfl⟩
  | read answer => cases answer <;> exact ⟨rfl, rfl, rfl, rfl⟩
  | written answer => cases answer <;> exact ⟨rfl, rfl, rfl, rfl⟩
  | _ => exact ⟨rfl, rfl, rfl, rfl⟩

theorem notMem_counters (e : Event) :
    Counter.milestone .domainChecked ∉ e.counters ∧ Counter.failure .noMxRecords ∉ e.counters := by
  cases e with
  | asked answer => cases answer <;> exact ⟨nofun, nofun⟩
  | read answer => cases answer <;> exact ⟨nofun, nofun⟩
  | written answer => cases answer <;> exact ⟨nofun, nofun⟩
  | reused => exact ⟨by decide, by decide⟩
  | probed hostname => exact ⟨List.not_mem_nil, List.not_mem_nil⟩

end Event

def Result.counters (result : Result) : List Counter :=
  .milestone .domainChecked :: if result.report.mxHosts.isEmpty then [.failure .noMxRecords] else []

def Inquiry.counters : Inquiry → List Counter
  | answered result => result.counters
  | _ => []

section Counting

variable {s : Services} {c : Counter} {w v : World}

theorem Finding.count_events (f : Finding) :
    (f.events.flatMap Event.counters).count c = f.counters.count c := by
  rw [← Multiset.coe_count]
  cases f <;> rfl

theorem count_keepEvents (hostname : String) (r : HostReport) (w : World) :
    ((keepEvents hostname r w).flatMap Event.counters).count c =
      (keptCounters hostname r w).count c := by
  rw [← Multiset.coe_count, keepEvents, keptCounters]
  cases w.cache with
  | none => rfl
  | some cache =>
    dsimp only
    cases (cache.put hostname r).2 <;> rfl

theorem count_asked (s : Services) (domain : String) :
    ([Event.asked (s.mx domain).1].flatMap Event.counters).count c =
      (lookupCounters s domain).count c := by
  rw [← Multiset.coe_count, lookupCounters]
  cases (s.mx domain).1 <;> rfl

theorem Probing.count_step {p q : Probing} {m : Probing.Move} (hs : s.Leaves c)
    (h : Probing.Step s p w m q v) :
    v.raised.count c = w.raised.count c + ((p.events s w m).flatMap Event.counters).count c := by
  have hlook (hostname : String) : (cached s p.domain hostname w).2.raised.count c =
      w.raised.count c + ((find s.clock hostname w).events.flatMap Event.counters).count c := by
    rw [(cached_spec s p.domain hostname w).2.1, Multiset.count_add,
      Finding.count_events, Nat.add_comm]
  cases h with
  | enter hp hroom => rfl
  | reuse hi hr =>
    rw [events_look hi]
    exact hlook _
  | start hi hr =>
    rw [events_look hi]
    exact hlook _
  | land hi =>
    rw [events_land hi, (probed_spec s _ _ w).2.1, Multiset.count_add, Multiset.coe_count,
      List.count_eq_zero_of_not_mem (hs.probe _ _ _), Nat.zero_add]
    rfl
  | keep hi =>
    rw [events_keep hi, (keep_spec _ _ w).1, Multiset.count_add, count_keepEvents, Nat.add_comm]

theorem count_openingCounters (hs : s.Leaves c) (domain : String) :
    (openingCounters s domain).count c =
      (if (mxNames s domain).isEmpty then [.failure .noMxRecords] else []).count c +
        (lookupCounters s domain).count c := by
  rw [openingCounters, Multiset.count_add, Multiset.count_add, Multiset.coe_count,
    List.count_eq_zero_of_not_mem (hs.mx domain), Nat.add_zero]
  split
  · rw [← Multiset.coe_singleton, Multiset.coe_count]
  · rfl

theorem count_finish (result : Result) (w : World) :
    (finish result w).raised.count c = w.raised.count c +
      [Counter.milestone .domainChecked].count c := by
  rw [(finish_spec result w).1, Multiset.count_add, Nat.add_comm, ← Multiset.coe_singleton,
    Multiset.coe_count]

theorem Result.count_counters (c : Counter) (result : Result) :
    result.counters.count c = [Counter.milestone .domainChecked].count c +
      (if result.report.mxHosts.isEmpty then [.failure .noMxRecords] else []).count c := by
  rw [Result.counters, ← List.singleton_append, List.count_append]

end Counting

namespace Inquiry

variable {s : Services} {c : Counter} {q r : Inquiry} {w v : World} {m : Move} {es : List Event}

theorem count_step (hs : s.Leaves c) (hb : Balanced es q) (h : Step s q w m r v) :
    v.raised.count c + q.counters.count c =
      w.raised.count c + ((q.events s w m).flatMap Event.counters).count c +
        r.counters.count c := by
  cases h with
  | @settle domain expected w report u hopened hraised hcache hticks =>
    have hopening := count_openingCounters hs (HostName.normalize domain)
    rw [← hopened.mxHosts_eq] at hopening
    simp only [events, counters, List.count_nil, Nat.add_zero]
    rw [count_finish, hraised, Multiset.count_add, hopening, count_asked, Result.count_counters]
    dsimp only
    omega
  | @embark domain expected w hsome hchosen =>
    simp only [events, counters, List.count_nil, Nat.add_zero]
    rw [(mxHosts_spec s _ w).2.1, Multiset.count_add, Multiset.count_add, Multiset.coe_count,
      List.count_eq_zero_of_not_mem (hs.mx _), Nat.add_zero, count_asked, Nat.add_comm]
  | scan hstep =>
    rw [Probing.count_step hs (Probing.step_of_step? hstep)]
    rfl
  | @conclude hosts preferred p w hdone =>
    obtain ⟨⟨now, hreport⟩, -, hraised, -⟩ := conclude_spec s hosts preferred p w
    have hsome : hosts.isEmpty = false := hb.named _ _ _ rfl
    simp only [events, counters, List.flatMap_nil, List.count_nil, Nat.add_zero]
    rw [count_finish, hraised, Multiset.count_add, Multiset.coe_count,
      List.count_eq_zero_of_not_mem (hs.policy _ _), Nat.zero_add, Result.count_counters, hreport,
      DomainReport.mxHosts_ofChecks, hsome]
    rfl

theorem Logs.count_eq {domain : String} {expected : List String} {w₀ : World} (hs : s.Leaves c)
    (h : Logs s (.asked domain expected) w₀ es q w) :
    w.raised.count c =
      w₀.raised.count c + (es.flatMap Event.counters).count c + q.counters.count c := by
  induction h with
  | refl => rfl
  | tail hlog hstep ih =>
    have hone := count_step hs hlog.balanced (step_of_step? hstep)
    rw [List.flatMap_append, List.count_append]
    omega
  | others _ _ ih => exact ih

end Inquiry

theorem sum_map_toNat {α : Type} (p : α → Bool) (l : List α) :
    (l.map fun a => (p a).toNat).sum = l.countP p := by
  induction l with
  | nil => rfl
  | cons a rest ih =>
    rw [List.map_cons, List.sum_cons, ih, List.countP_cons, Nat.add_comm]
    cases p a <;> rfl

structure Call where
  events : List Event
  result : Result

def Call.counters (call : Call) : List Counter :=
  call.events.flatMap Event.counters ++ call.result.counters

namespace Call

variable {c : Counter}

theorem count_logged {p : Event → Bool} (hchecked : c ≠ .milestone .domainChecked)
    (hnone : c ≠ .failure .noMxRecords) (hevents : ∀ e : Event, e.counters.count c = (p e).toNat)
    (call : Call) : call.counters.count c = call.events.countP p := by
  have hanswered : c ∉ call.result.counters := by
    rw [Result.counters]
    split <;> simp [hchecked, hnone]
  have hlog : (call.events.flatMap Event.counters).count c = call.events.countP p := by
    rw [List.count_flatMap, ← sum_map_toNat]
    exact congrArg List.sum (List.map_congr_left fun e _ => hevents e)
  rw [counters, List.count_append, hlog, List.count_eq_zero_of_not_mem hanswered, Nat.add_zero]

theorem count_answered (hevents : ∀ e : Event, c ∉ e.counters) (call : Call) :
    call.counters.count c = call.result.counters.count c := by
  have hnone : c ∉ call.events.flatMap Event.counters := by
    intro hmem
    obtain ⟨e, -, he⟩ := List.mem_flatMap.mp hmem
    exact hevents e he
  rw [counters, List.count_append, List.count_eq_zero_of_not_mem hnone, Nat.zero_add]

end Call

inductive Calls (w₀ : World) : List Call → World → Prop
  | nil : Calls w₀ [] w₀
  | snoc {calls w s domain expected es result v} : Calls w₀ calls w →
      (∀ c ∈ Counter.ofChecks, s.Leaves c) →
      Inquiry.Logs s (.asked domain expected) w es (.answered result) v →
      Calls w₀ (calls ++ [⟨es, result⟩]) v

namespace Calls

variable {w₀ w : World} {calls : List Call} {c : Counter}

def follow? (s : Services) (w : World) :
    List (String × List Inquiry.Move) → Option (List Call × World)
  | [] => some ([], w)
  | (domain, ms) :: rest =>
      match (Inquiry.asked domain []).log? s w ms with
      | some (es, .answered result, v) =>
          (follow? s v rest).map fun (calls, u) => (⟨es, result⟩ :: calls, u)
      | _ => none

theorem of_follow? {s : Services} (hs : ∀ c ∈ Counter.ofChecks, s.Leaves c) (h : Calls w₀ calls w)
    {checks : List (String × List Inquiry.Move)} {more : List Call} {v : World}
    (hfollow : follow? s w checks = some (more, v)) : Calls w₀ (calls ++ more) v := by
  induction checks generalizing calls w more with
  | nil =>
    cases hfollow
    rwa [List.append_nil]
  | cons check rest ih =>
    simp only [follow?] at hfollow
    split at hfollow
    · rename_i es result u hlog
      obtain ⟨⟨later, u'⟩, hlater, heq⟩ := Option.map_eq_some_iff.mp hfollow
      cases heq
      rw [← List.singleton_append, ← List.append_assoc]
      exact ih (h.snoc hs (Inquiry.logs_of_log? hlog)) hlater
    · cases hfollow

theorem count_eq (h : Calls w₀ calls w) (hc : c ∈ Counter.ofChecks) :
    w.raised.count c = w₀.raised.count c + (calls.map fun call => call.counters.count c).sum := by
  induction h with
  | nil => rfl
  | snoc _ hs hlog ih =>
    rw [hlog.count_eq (hs c hc), ih, List.map_append, List.sum_append, List.map_singleton,
      List.sum_singleton, Call.counters, List.count_append]
    simp only [Inquiry.counters, Nat.add_assoc]

theorem balanced (h : Calls w₀ calls w) :
    ∀ call ∈ calls, Inquiry.Balanced call.events (.answered call.result) := by
  induction h with
  | nil => exact fun call hcall => absurd hcall List.not_mem_nil
  | snoc _ _ hlog ih =>
    intro call hcall
    rcases List.mem_append.mp hcall with hcall | hcall
    · exact ih call hcall
    · rw [List.mem_singleton.mp hcall]
      exact hlog.balanced

theorem uncached (h : Calls w₀ calls w) (hw : w₀.cache = none) :
    w.cache = none ∧ ∀ call ∈ calls, ∀ e ∈ call.events, e.usesCache = false := by
  induction h with
  | nil => exact ⟨hw, fun call hcall => absurd hcall List.not_mem_nil⟩
  | snoc _ _ hlog ih =>
    obtain ⟨hcache, hevents⟩ := hlog.uncached ih.1
    refine ⟨hcache, fun call hcall => ?_⟩
    rcases List.mem_append.mp hcall with hcall | hcall
    · exact ih.2 call hcall
    · rw [List.mem_singleton.mp hcall]
      exact hevents

section

variable {cache : Option Scans.Cache} (h : Calls { cache } calls w)

include h

theorem tally_count_eq (hc : c ∈ Counter.ofChecks) :
    w.tally.count c = (calls.map fun call => call.counters.count c).sum := by
  rw [World.tally_count, h.count_eq hc]
  exact Nat.zero_add _

theorem tally_count_logged (hc : c ∈ Counter.ofChecks) (hchecked : c ≠ .milestone .domainChecked)
    (hnone : c ≠ .failure .noMxRecords) {p : Event → Bool}
    (hevents : ∀ e : Event, e.counters.count c = (p e).toNat) :
    w.tally.count c = (calls.flatMap Call.events).countP p := by
  simp only [h.tally_count_eq hc, Call.count_logged hchecked hnone hevents, List.countP_flatMap]
  rfl

theorem domainChecked_eq : w.tally.milestones .domainChecked = calls.length := by
  have hone (call : Call) : call.counters.count (.milestone .domainChecked) = 1 := by
    rw [call.count_answered fun e => e.notMem_counters.1, Result.counters]
    split <;> rfl
  rw [Tally.milestones, h.tally_count_eq (by decide)]
  simp only [hone, List.map_const', List.sum_replicate_nat, Nat.mul_one]

theorem noMxRecords_eq :
    w.tally.failures .noMxRecords = calls.countP fun call =>
      call.result.report.mxHosts.isEmpty := by
  have hempty (call : Call) :
      call.counters.count (.failure .noMxRecords) = call.result.report.mxHosts.isEmpty.toNat := by
    rw [call.count_answered fun e => e.notMem_counters.2, Result.counters]
    cases call.result.report.mxHosts.isEmpty <;> rfl
  rw [Tally.failures, h.tally_count_eq (by decide), ← sum_map_toNat]
  simp only [hempty]

theorem lookups_eq :
    w.tally.failures .mxLookup = (calls.flatMap Call.events).countP Event.isFailedLookup :=
  h.tally_count_logged (by decide) (by decide) (by decide) fun e => e.count_counters.1

theorem reads_eq :
    w.tally.failures .cacheRead = (calls.flatMap Call.events).countP Event.isFailedRead :=
  h.tally_count_logged (by decide) (by decide) (by decide) fun e => e.count_counters.2.1

theorem hits_eq :
    w.tally.milestones .cacheHit = (calls.flatMap Call.events).countP Event.isReuse :=
  h.tally_count_logged (by decide) (by decide) (by decide) fun e => e.count_counters.2.2.1

theorem writes_eq :
    w.tally.failures .cacheWrite = (calls.flatMap Call.events).countP Event.isFailedWrite :=
  h.tally_count_logged (by decide) (by decide) (by decide) fun e => e.count_counters.2.2.2

end

/-- After any checks the counters agree with what the checks did and with how they were answered,
whatever fails; and every further check adds to them. -/
theorem statistics_balance (cache : Option Scans.Cache) (h : Calls { cache } calls w) :
    w.tally.milestones .domainChecked = calls.length ∧
    w.tally.failures .noMxRecords = calls.countP (fun call => call.result.report.mxHosts.isEmpty) ∧
    w.tally.failures .mxLookup = (calls.flatMap Call.events).countP Event.isFailedLookup ∧
    w.tally.failures .mxLookup ≤ w.tally.failures .noMxRecords ∧
    w.tally.milestones .cacheHit + (calls.flatMap Call.events).countP Event.isProbe =
      (calls.map fun call => call.result.report.preferredHosts.length).sum ∧
    w.tally.failures .cacheRead = (calls.flatMap Call.events).countP Event.isFailedRead ∧
    w.tally.failures .cacheRead ≤ (calls.flatMap Call.events).countP Event.isProbe ∧
    w.tally.failures .cacheWrite = (calls.flatMap Call.events).countP Event.isFailedWrite ∧
    w.tally.failures .cacheWrite ≤ (calls.flatMap Call.events).countP Event.isProbe ∧
    (cache = none → w.tally.milestones .cacheHit = 0 ∧ w.tally.failures .cacheRead = 0 ∧
      w.tally.failures .cacheWrite = 0) ∧
    ∀ (s : Services) (domain : String) (expected : List String),
      (∀ c ∈ Counter.ofChecks, s.Leaves c) → ∃ es,
        Calls { cache } (calls ++ [⟨es, (run s domain expected w).1⟩])
          (run s domain expected w).2 := by
  have hbalanced := h.balanced
  have hprobes {p : Event → Bool} (hp : ∀ call ∈ calls,
      call.events.countP p ≤ call.events.countP Event.isProbe) :
      (calls.flatMap Call.events).countP p ≤ (calls.flatMap Call.events).countP Event.isProbe := by
    rw [List.countP_flatMap, List.countP_flatMap]
    exact List.sum_le_sum hp
  refine ⟨h.domainChecked_eq, h.noMxRecords_eq, h.lookups_eq, ?_, ?_, h.reads_eq, ?_,
    h.writes_eq, ?_, ?_, ?_⟩
  · rw [h.lookups_eq, h.noMxRecords_eq, List.countP_flatMap, ← sum_map_toNat]
    exact List.sum_le_sum fun call hcall => (hbalanced call hcall).lookups
  · rw [h.hits_eq, List.countP_flatMap, List.countP_flatMap, ← List.sum_map_add]
    exact congrArg List.sum (List.map_congr_left fun call hcall => (hbalanced call hcall).hosts)
  · rw [h.reads_eq]
    exact hprobes fun call hcall => (hbalanced call hcall).reads
  · rw [h.writes_eq]
    exact hprobes fun call hcall => (hbalanced call hcall).writes
  · rintro rfl
    have huncached : ∀ e ∈ calls.flatMap Call.events, e.usesCache = false := by
      intro e he
      obtain ⟨call, hcall, he⟩ := List.mem_flatMap.mp he
      exact (h.uncached rfl).2 call hcall e he
    rw [h.hits_eq, h.reads_eq, h.writes_eq]
    refine ⟨?_, ?_, ?_⟩ <;> refine List.countP_eq_zero.mpr fun e he => Bool.not_eq_true _ |>.mpr ?_
    · exact (Event.of_not_usesCache (huncached e he)).1
    · exact (Event.of_not_usesCache (huncached e he)).2.1
    · exact (Event.of_not_usesCache (huncached e he)).2.2
  · intro s domain expected hs
    obtain ⟨ms, hrun⟩ := Inquiry.exists_run s domain expected w
    obtain ⟨es, hlog⟩ := hrun.exists_logs
    exact ⟨es, h.snoc hs hlog⟩

theorem balance_of_a_hit_and_three_failures :
    ∃ (cache : Scans.Cache) (calls : List Call) (w : World), Calls { cache } calls w ∧
      calls.length = 3 ∧ w.tally.milestones .domainChecked = 3 ∧ w.tally.failures .noMxRecords = 1 ∧
      w.tally.failures .mxLookup = 1 ∧ (calls.flatMap Call.events).countP Event.isProbe = 3 ∧
      w.tally.milestones .cacheHit = 1 ∧ w.tally.failures .cacheRead = 1 ∧
      w.tally.failures .cacheWrite = 1 := by
  -- The first read and the second write are refused.
  let store : Scans.Store :=
    { backing := .memory .empty
      readRefusal := fun n => if n = 0 then some (.unavailable "busy") else none
      writeRefusal := fun n => if n = 1 then some (.unavailable "busy") else none }
  let s : Services :=
    { clock := fun _ => default
      mx := fun domain =>
        if domain = "down.example" then (.error ⟨domain, "timed out"⟩, [])
        else (.ok ["mx1.example", "mx2.example"], [])
      probe := fun domain hostname now =>
        (.observed domain hostname [.pass hostname] now, [.reached .hostProbed])
      delay := fun _ => 0
      policy := fun _ _ => (none, [.failed .policyUnavailable])
      concurrency := 2 }
  have hs : ∀ c ∈ Counter.ofChecks, s.Leaves c := by
    have hother (c d : Counter) (hd : d ∉ Counter.ofChecks) (hc : c ∈ Counter.ofChecks) :
        c ∉ [d] := by
      intro hmem
      rw [List.mem_singleton.mp hmem] at hc
      exact hd hc
    intro c hc
    refine ⟨fun domain => ?_, fun domain hostname now => ?_, fun domain hosts => ?_⟩
    · simp only [s]
      split <;> exact List.not_mem_nil
    · exact hother c (.milestone .hostProbed) (by decide) hc
    · exact hother c (.failure .policyUnavailable) (by decide) hc
  -- Both hosts of the first domain are at work when they are looked up, the later one before the
  -- other.
  have hnumbers : (follow? s { cache := some ⟨store, .ofSeconds 60⟩ }
      [("a.example", [.prepare, .scan .enter, .scan .enter, .scan (.look 1), .scan (.look 0),
        .scan (.land 0), .scan (.keep 0), .scan (.land 0), .scan (.keep 0), .conclude]),
      ("down.example", [.prepare]),
      ("b.example", [.prepare, .scan .enter, .scan (.look 0), .scan .enter, .scan (.look 0),
        .scan (.land 0), .scan (.keep 0), .conclude])]).map
      (fun (calls, _) => (calls.length, calls.countP fun call => call.result.report.mxHosts.isEmpty,
        (calls.flatMap Call.events).countP Event.isFailedLookup,
        (calls.flatMap Call.events).countP Event.isProbe,
        (calls.flatMap Call.events).countP Event.isFailedRead,
        (calls.flatMap Call.events).countP Event.isFailedWrite,
        (calls.map fun call => call.result.report.preferredHosts.length).sum)) =
      some (3, 1, 1, 3, 1, 1, 4) := rfl
  obtain ⟨⟨calls, w⟩, hfollow, hnumbers⟩ := Option.map_eq_some_iff.mp hnumbers
  simp only [Prod.mk.injEq] at hnumbers
  obtain ⟨hlength, hempty, hlookups, hprobes, hreads, hwrites, hpreferred⟩ := hnumbers
  have hcalls : Calls { cache := some ⟨store, .ofSeconds 60⟩ } calls w :=
    Calls.nil.of_follow? hs hfollow
  obtain ⟨hchecked, hnone, hlookup, -, hhosts, hread, -, hwrite, -⟩ := statistics_balance _ hcalls
  refine ⟨_, calls, w, hcalls, hlength, hchecked.trans hlength, hnone.trans hempty,
    hlookup.trans hlookups, hprobes, ?_, hread.trans hreads, hwrite.trans hwrites⟩
  rw [hprobes, hpreferred] at hhosts
  exact Nat.add_right_cancel hhosts

end Calls

end DomainCheck

end MailAudit
