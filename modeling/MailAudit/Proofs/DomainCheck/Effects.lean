import MailAudit.DomainCheck.Crew
import Mathlib.Data.Multiset.AddSub
import Mathlib.Data.Multiset.Count

namespace MailAudit

namespace Note

@[simp] theorem counters_nil : counters [] = [] := rfl

@[simp] theorem counters_log_cons (level : Log.Level) (area : Log.Area) (message : String)
    (notes : List Note) : counters (.log level area message :: notes) = counters notes := rfl

@[simp] theorem counters_failed_cons (f : Failure) (notes : List Note) :
    counters (.failed f :: notes) = .failure f :: counters notes := rfl

@[simp] theorem counters_reached_cons (m : Milestone) (notes : List Note) :
    counters (.reached m :: notes) = .milestone m :: counters notes := rfl

@[simp] theorem counters_append (notes more : List Note) :
    counters (notes ++ more) = counters notes ++ counters more := List.filterMap_append

end Note

namespace World

def raised (w : World) : Multiset Counter := Note.counters w.journal

theorem tally_count (w : World) (c : Counter) : w.tally.count c = w.raised.count c :=
  (Multiset.coe_count c _).symm

@[simp] theorem raised_note (w : World) (notes : List Note) :
    (w.note notes).raised = ↑(Note.counters notes) + w.raised := by
  have hsplit : Note.counters (w.note notes).journal =
      (Note.counters notes).reverse ++ Note.counters w.journal := by
    simp only [Note.counters, note, List.filterMap_append, List.filterMap_reverse]
  rw [raised, hsplit, ← Multiset.coe_add, Multiset.coe_reverse, raised]

@[simp] theorem raised_mk_journal (w : World) (cache : Option Scans.Cache) (ticks : Nat) :
    (World.mk cache ticks w.journal).raised = w.raised := rfl

@[simp] theorem cache_note (w : World) (notes : List Note) : (w.note notes).cache = w.cache := rfl

@[simp] theorem ticks_note (w : World) (notes : List Note) : (w.note notes).ticks = w.ticks := rfl

@[simp] theorem raised_now (w : World) (clock : Clock) : (w.now clock).2.raised = w.raised := rfl

@[simp] theorem cache_now (w : World) (clock : Clock) : (w.now clock).2.cache = w.cache := rfl

@[simp] theorem ticks_now (w : World) (clock : Clock) : (w.now clock).2.ticks = w.ticks + 1 := rfl

end World

namespace DomainCheck

inductive Finding where
  | uncached
  | fresh (r : HostReport)
  | stale (r : HostReport)
  | absent
  | refused (e : StoreError)

namespace Finding

def reused (domain hostname : String) : Finding → Option HostReport
  | fresh r => some (.observed domain hostname r.checks r.observedAt)
  | _ => none

def counters : Finding → Multiset Counter
  | fresh _ => {.milestone .cacheHit}
  | refused _ => {.failure .cacheRead}
  | _ => 0

end Finding

def find (clock : Clock) (hostname : String) (w : World) : Finding :=
  match w.cache with
  | none => .uncached
  | some cache =>
      match (cache.store.get hostname).2 with
      | .ok (some r) =>
          if Scans.Cache.isFresh cache.expiry (clock w.ticks) r then .fresh r else .stale r
      | .ok none => .absent
      | .error e => .refused e

theorem exists_of_reused {clock : Clock} {domain hostname : String} {w : World} {r : HostReport}
    (h : (find clock hostname w).reused domain hostname = some r) :
    ∃ cache stored, w.cache = some cache ∧ cache.store.backing.get hostname = .ok (some stored) ∧
      r = .observed domain hostname stored.checks stored.observedAt := by
  simp only [find] at h
  split at h
  · cases h
  · rename_i cache hcache
    split at h
    · rename_i stored hget
      split at h
      · cases h
        refine ⟨cache, stored, hcache, ?_, rfl⟩
        simp only [Scans.Store.get] at hget
        split at hget
        · cases hget
        · exact hget
      · cases h
    · cases h
    · cases h

def readOnce (cache : Scans.Cache) : Scans.Cache :=
  { cache with store := { cache.store with reads := cache.store.reads + 1 } }

theorem cached_spec (s : Services) (domain hostname : String) (w : World) :
    (cached s domain hostname w).1 = (find s.clock hostname w).reused domain hostname ∧
      (cached s domain hostname w).2.raised = (find s.clock hostname w).counters + w.raised ∧
      (cached s domain hostname w).2.cache = w.cache.map readOnce ∧
      (cached s domain hostname w).2.ticks = w.ticks + w.cache.toList.length := by
  simp only [cached, find]
  cases hcache : w.cache with
  | none => exact ⟨rfl, (Multiset.zero_add _).symm, hcache, rfl⟩
  | some cache =>
      simp only [Scans.Cache.get]
      cases hget : (cache.store.get hostname).2 with
      | error e => exact ⟨rfl, by simp [Finding.counters], rfl, rfl⟩
      | ok answer =>
          cases answer with
          | none => exact ⟨rfl, by simp [Finding.counters], rfl, rfl⟩
          | some r =>
              cases hfresh : Scans.Cache.isFresh cache.expiry (s.clock w.ticks) r with
              | true =>
                  simp only [World.now, hfresh, if_true]
                  exact ⟨rfl, by simp [Finding.counters], rfl, rfl⟩
              | false =>
                  simp only [World.now, hfresh, Bool.false_eq_true, if_false]
                  exact ⟨rfl, by simp [Finding.counters, Scans.Cache.staleNote], rfl, rfl⟩

def keptCounters (hostname : String) (r : HostReport) (w : World) : Multiset Counter :=
  match w.cache with
  | none => 0
  | some cache =>
      match (cache.put hostname r).2 with
      | .ok () => 0
      | .error _ => {.failure .cacheWrite}

theorem keep_spec (hostname : String) (r : HostReport) (w : World) :
    (keep hostname r w).raised = keptCounters hostname r w + w.raised ∧
      (keep hostname r w).cache = w.cache.map (fun cache => (cache.put hostname r).1) ∧
      (keep hostname r w).ticks = w.ticks := by
  simp only [keep, keptCounters]
  cases hcache : w.cache with
  | none => exact ⟨(Multiset.zero_add _).symm, hcache, rfl⟩
  | some cache =>
      simp only []
      cases (cache.put hostname r).2 with
      | ok done => exact ⟨(Multiset.zero_add _).symm, rfl, rfl⟩
      | error e => exact ⟨by simp, rfl, rfl⟩

theorem probed_spec (s : Services) (domain hostname : String) (w : World) :
    (probed s domain hostname w).1 = (s.probe domain hostname (s.clock w.ticks)).1 ∧
      (probed s domain hostname w).2.raised =
        ↑(Note.counters (s.probe domain hostname (s.clock w.ticks)).2) + w.raised ∧
      (probed s domain hostname w).2.cache = w.cache ∧
      (probed s domain hostname w).2.ticks = w.ticks + 1 :=
  ⟨rfl, by simp [probed, World.now], rfl, rfl⟩

end DomainCheck

end MailAudit
