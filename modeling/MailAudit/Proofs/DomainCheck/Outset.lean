import MailAudit.Proofs.DomainCheck.Tracking
import MailAudit.Proofs.Scans.Store
import Mathlib.Algebra.BigOperators.Group.List.Basic
import Mathlib.Algebra.Order.Group.Multiset
import Mathlib.Tactic.Abel

/-! What the scans of a domain's hosts come to is settled at their outset: for each host whether the
cache has a fresh scan of it, the report on it, the counters it raises, and what is kept. -/

namespace MailAudit.DomainCheck

variable {s : Services}

structure Timeless (s : Services) : Prop where
  probe (domain hostname : String) (t t' : Instant) :
    (s.probe domain hostname t).1.untimed = (s.probe domain hostname t').1.untimed
  probeCounters (domain hostname : String) (t t' : Instant) :
    Note.counters (s.probe domain hostname t).2 = Note.counters (s.probe domain hostname t').2
  policy : TimelessPolicy s
  policyCounters (domain : String) (reports reports' : Keyed HostReport) :
    reports.map HostReport.untimed = reports'.map HostReport.untimed →
      Note.counters (s.policy domain reports).2 = Note.counters (s.policy domain reports').2

structure Outset where
  domain : String
  hosts : List String
  world : World
  fresh : String → Bool

namespace Outset

variable {o : Outset}

/-- Hosts are looked up in their order, so that the number of reads before each is known. -/
def foreseen (o : Outset) (hostname : String) : Finding :=
  match o.world.cache with
  | none => .uncached
  | some cache =>
      match cache.store.readRefusal (cache.store.reads + o.hosts.idxOf hostname) with
      | some e => .refused e
      | none =>
          match cache.store.backing.get hostname with
          | .ok (some r) => if o.fresh hostname then .fresh r else .stale r
          | .ok none => .absent
          | .error e => .refused e

def reused (o : Outset) (hostname : String) : Option HostReport :=
  (o.foreseen hostname).reused o.domain hostname

def due (s : Services) (o : Outset) (hostname : String) : HostReport :=
  match o.reused hostname with
  | some r => r.untimed
  | none => (s.probe o.domain hostname default).1.untimed

def probeCounters (s : Services) (o : Outset) (hostname : String) : Multiset Counter :=
  Note.counters (s.probe o.domain hostname default).2

def takes (o : Outset) (n : Nat) : Bool :=
  o.world.cache.any fun cache => cache.store.takes (cache.store.writes + n)

def writeCounters (o : Outset) (n : Nat) : Multiset Counter :=
  if o.world.cache.isSome && !o.takes n then {.failure .cacheWrite} else 0

def writesCounters (o : Outset) (n : Nat) : Multiset Counter :=
  ((List.range n).map o.writeCounters).sum

def written (o : Outset) (hosts : List String) : Nat :=
  hosts.countP fun hostname => (o.reused hostname).isNone

def hostCounters (s : Services) (o : Outset) (hostname : String) : Multiset Counter :=
  (o.foreseen hostname).counters +
    if (o.reused hostname).isSome then 0 else probeCounters s o hostname

def scanCounters (s : Services) (o : Outset) (c : Scan) : Multiset Counter :=
  match c.stage with
  | .looking => hostCounters s o c.hostname
  | .probing _ => probeCounters s o c.hostname
  | .keeping _ => 0

def owed (s : Services) (o : Outset) (p : Probing) : Multiset Counter :=
  (p.pending.map (hostCounters s o)).sum + (p.scans.map (scanCounters s o)).sum

theorem written_cons_of_reused {hostname : String} (h : (o.reused hostname).isSome = true)
    (hosts : List String) : o.written (hostname :: hosts) = o.written hosts := by
  refine List.countP_cons_of_neg ?_
  simpa [Option.isSome_iff_ne_none] using h

theorem written_cons_of_probed {hostname : String} (h : o.reused hostname = none)
    (hosts : List String) : o.written (hostname :: hosts) = o.written hosts + 1 := by
  refine List.countP_cons_of_pos ?_
  rw [h]
  rfl

theorem writesCounters_succ (o : Outset) (n : Nat) :
    o.writesCounters (n + 1) = o.writesCounters n + o.writeCounters n := by
  rw [writesCounters, List.range_succ, List.map_append, List.sum_append, List.map_singleton,
    List.sum_singleton]
  rfl

end Outset

theorem exists_split {α : Type} {l : List α} {i : Nat} {a : α} (h : l[i]? = some a) :
    ∃ before behind, l = before ++ a :: behind ∧ (∀ b, l.set i b = before ++ b :: behind) ∧
      l.eraseIdx i = before ++ behind := by
  obtain ⟨hlt, rfl⟩ := List.getElem?_eq_some_iff.mp h
  refine ⟨l.take i, l.drop (i + 1), ?_, fun b => ?_, List.eraseIdx_eq_take_drop_succ l i⟩
  · rw [List.getElem_cons_drop, List.take_append_drop]
  · rw [List.set_eq_take_append_cons_drop, if_pos hlt]

def Scan.waiting? (c : Scan) : Option String :=
  match c.stage with
  | .looking => some c.hostname
  | _ => none

namespace Probing

variable {o : Outset} {p q : Probing} {w v : World} {m : Move} {i : Nat} {hostname : String}

def waiting (p : Probing) : List String := p.scans.filterMap Scan.waiting?

theorem settled_iff : p.Settled ↔ p.waiting = [] := by
  refine Iff.trans (forall₂_congr fun c _ => ?_) List.filterMap_eq_nil_iff.symm
  rw [Scan.waiting?]
  split
  · rename_i hstage
    simp [hstage]
  · rename_i hstage
    simpa using hstage

theorem waiting_of_enter (h : p.Settled) (hostname : String) :
    (p.scans ++ [(⟨hostname, .looking⟩ : Scan)]).filterMap Scan.waiting? = [hostname] := by
  rw [List.filterMap_append]
  exact congrArg (· ++ [hostname]) (settled_iff.mp h)

theorem waiting_of_looking (hone : p.waiting.length ≤ 1)
    (hi : p.scans[i]? = some ⟨hostname, .looking⟩) :
    p.waiting = [hostname] ∧ (p.scans.eraseIdx i).filterMap Scan.waiting? = [] ∧
      ∀ c, c.waiting? = none → (p.scans.set i c).filterMap Scan.waiting? = [] := by
  obtain ⟨before, behind, hscans, hset, herase⟩ := exists_split hi
  have hwaiting : p.waiting =
      before.filterMap Scan.waiting? ++ hostname :: behind.filterMap Scan.waiting? := by
    rw [waiting, hscans, List.filterMap_append, List.filterMap_cons]
    rfl
  rw [hwaiting, List.length_append, List.length_cons] at hone
  have hbefore : before.filterMap Scan.waiting? = [] := List.length_eq_zero_iff.mp (by omega)
  have hbehind : behind.filterMap Scan.waiting? = [] := List.length_eq_zero_iff.mp (by omega)
  refine ⟨?_, ?_, fun c hc => ?_⟩
  · rw [hwaiting, hbefore, hbehind, List.nil_append]
  · rw [herase, List.filterMap_append, hbefore, hbehind, List.append_nil]
  · rw [hset, List.filterMap_append, List.filterMap_cons_none hc, hbefore, hbehind, List.append_nil]

theorem waiting_of_busy {c : Scan} (hi : p.scans[i]? = some c) (hc : c.waiting? = none) :
    (p.scans.eraseIdx i).filterMap Scan.waiting? = p.waiting ∧
      ∀ d : Scan, d.waiting? = none → (p.scans.set i d).filterMap Scan.waiting? = p.waiting := by
  obtain ⟨before, behind, hscans, hset, herase⟩ := exists_split hi
  refine ⟨?_, fun d hd => ?_⟩
  · rw [waiting, herase, hscans, List.filterMap_append, List.filterMap_append,
      List.filterMap_cons_none hc]
  · rw [waiting, hset, hscans, List.filterMap_append, List.filterMap_append,
      List.filterMap_cons_none hc, List.filterMap_cons_none hd]

structure Ordered (hosts : List String) (p : Probing) : Prop where
  order : ∃ looked, hosts = looked ++ (p.waiting ++ p.pending) ∧
    (p.probes.reverse.map (·.hostname)).Sublist looked
  one : p.waiting.length ≤ 1

theorem Ordered.sublist_probes {hosts : List String} (ho : Ordered hosts p) :
    (p.probes.reverse.map (·.hostname)).Sublist hosts := by
  obtain ⟨looked, hhosts, hprobes⟩ := ho.order
  rw [hhosts]
  exact hprobes.trans (List.sublist_append_left _ _)

theorem Ordered.step {hosts : List String} (ho : Ordered hosts p)
    (hsettled : m = .enter → p.Settled) (h : Step s p w m q v) : Ordered hosts q := by
  obtain ⟨looked, hhosts, hprobes⟩ := ho.order
  cases h with
  | @enter hostname pending hp hroom =>
      have hnone := settled_iff.mp (hsettled rfl)
      have hwaiting := waiting_of_enter (hsettled rfl) hostname
      refine ⟨⟨looked, ?_, hprobes⟩, ?_⟩
      · rw [hhosts, hp, hnone, waiting, hwaiting]
        rfl
      · rw [waiting, hwaiting, List.length_singleton]
  | @reuse i hostname r hi hr =>
      obtain ⟨hwaiting, hafter, -⟩ := waiting_of_looking ho.one hi
      refine ⟨⟨looked ++ [hostname], ?_, hprobes.trans (List.sublist_append_left _ _)⟩, ?_⟩
      · rw [hhosts, hwaiting, waiting, hafter, List.append_assoc]
        rfl
      · rw [waiting, hafter]
        exact Nat.zero_le _
  | @start i hostname mostInFlight hi hr =>
      obtain ⟨hwaiting, -, hafter⟩ := waiting_of_looking ho.one hi
      have hafter := hafter ⟨hostname, .probing (p.time + s.delay hostname)⟩ rfl
      refine ⟨⟨looked ++ [hostname], ?_, ?_⟩, ?_⟩
      · rw [hhosts, hwaiting, waiting, hafter, List.append_assoc]
        rfl
      · rw [List.reverse_cons, List.map_append]
        exact hprobes.append (List.Sublist.refl [hostname])
      · rw [waiting, hafter]
        exact Nat.zero_le _
  | @land i hostname endsAt hi =>
      have hafter := (waiting_of_busy hi rfl).2
        ⟨hostname, .keeping (probed s p.domain hostname w).1⟩ rfl
      exact ⟨⟨looked, by rw [hhosts, waiting, waiting, hafter, waiting], hprobes⟩,
        by rw [waiting, hafter]; exact ho.one⟩
  | keep hi =>
      have hafter := (waiting_of_busy hi rfl).1
      exact ⟨⟨looked, by rw [hhosts, waiting, waiting, hafter, waiting], hprobes⟩,
        by rw [waiting, hafter]; exact ho.one⟩

theorem room_step (hroom : p.scans.length ≤ max 1 s.concurrency) (h : Step s p w m q v) :
    q.scans.length ≤ max 1 s.concurrency := by
  cases h with
  | enter hp hlt =>
      rw [List.length_append, List.length_singleton]
      omega
  | reuse hi hr => exact (List.length_eraseIdx_le _ _).trans hroom
  | start hi hr => rwa [List.length_set]
  | land hi => rwa [List.length_set]
  | keep hi => exact (List.length_eraseIdx_le _ _).trans hroom

theorem inFlight_le (hroom : p.scans.length ≤ max 1 s.concurrency) :
    p.inFlight ≤ max 1 s.concurrency :=
  List.countP_le_length.trans hroom

end Probing

end MailAudit.DomainCheck
