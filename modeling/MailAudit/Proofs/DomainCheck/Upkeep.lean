import MailAudit.Proofs.DomainCheck.Landing

namespace MailAudit.DomainCheck

open Scans (Backing)

variable {s : Services} {expiry : Duration} {kind : Backing.Kind}
  {known stored : String → Option Backing.Entry} {past : Landings} {hostname : String} {w v : World}

def Stores (expiry : Duration) (kind : Backing.Kind) (stored : String → Option Backing.Entry)
    (w : World) :
    Prop :=
  ∃ store, w.cache = some ⟨store, expiry⟩ ∧ (∀ n, store.readRefusal n = none) ∧
    (∀ n, store.takes n = true) ∧ store.backing.kind = kind ∧ store.backing.stored? = stored

theorem Stores.kind_ne_missing (h : Stores expiry kind stored w) : kind ≠ .missing := by
  obtain ⟨store, -, -, htakes, rfl, -⟩ := h
  have hfirst := htakes 0
  rw [Scans.Store.takes, Bool.and_eq_true, bne_iff_ne] at hfirst
  exact hfirst.2

theorem Stores.of_cache_eq (h : Stores expiry kind stored w) (heq : v.cache = w.cache) :
    Stores expiry kind stored v := by
  obtain ⟨store, hcache, hrest⟩ := h
  exact ⟨store, heq.trans hcache, hrest⟩

theorem Stores.cached (h : Stores expiry kind stored w) (s : Services) (domain hostname : String) :
    Stores expiry kind stored (cached s domain hostname w).2 := by
  obtain ⟨store, hcache, hrest⟩ := h
  refine ⟨{ store with reads := store.reads + 1 }, ?_, hrest⟩
  rw [(cached_spec s domain hostname w).2.2.1, hcache]
  rfl

theorem Stores.keep (h : Stores expiry kind stored w) (hostname : String) (r : HostReport) :
    Stores expiry kind (fun k => if k = hostname then some (kind.entryOf r) else stored k)
      (keep hostname r w) := by
  obtain ⟨store, hcache, hreads, htakes, rfl, rfl⟩ := h
  obtain ⟨hrefusal, -, -, -, hkept⟩ := store.put_frame hostname r
  refine ⟨(store.put hostname r).1, ?_, hrefusal ▸ hreads,
    store.takes_put hostname r ▸ htakes, hkept,
    funext (Scans.Store.put_of_takes (htakes store.writes) hostname r).2⟩
  rw [(keep_spec hostname r w).2.1, hcache]
  rfl

inductive Sees (expiry : Duration) (now : Instant) (domain hostname : String)
    (answer : Except StoreError (Option HostReport)) : Option HostReport → Prop
  | fresh {r : HostReport} (hread : answer = .ok (some r))
      (hfresh : Scans.Cache.isFresh expiry now r = true) :
      Sees expiry now domain hostname answer
        (some (.observed domain hostname r.checks r.observedAt))
  | nothing (hstale : ∀ r, answer = .ok (some r) → Scans.Cache.isFresh expiry now r = false) :
      Sees expiry now domain hostname answer none

theorem Stores.sees (h : Stores expiry kind stored w) (clock : Clock) (domain hostname : String) :
    Sees expiry (clock w.ticks) domain hostname (kind.read (stored hostname))
      ((find clock hostname w).reused domain hostname) := by
  obtain ⟨store, hcache, hreads, -, rfl, rfl⟩ := h
  simp only [find, hcache, Scans.Store.get, hreads, Backing.get_eq_read]
  cases hread : store.backing.kind.read (store.backing.stored? hostname) with
  | error e =>
      refine .nothing fun r hr => ?_
      cases hr
  | ok answer =>
      cases answer with
      | none =>
          refine .nothing fun r hr => ?_
          cases hr
      | some r =>
          cases hfresh : Scans.Cache.isFresh expiry (clock w.ticks) r with
          | true =>
              simp only [hfresh, if_true]
              exact .fresh rfl hfresh
          | false =>
              simp only [hfresh, Bool.false_eq_true, if_false]
              refine .nothing fun r' hr' => ?_
              cases hr'
              exact hfresh

/-- The report of the latest probe of a host, in the form in which it is stored, or else what was
known of the host before. -/
def latest (kind : Backing.Kind) (known : String → Option Backing.Entry) (past : Landings)
    (hostname : String) : Option Backing.Entry :=
  ((probesOf hostname past).head?.map kind.entryOf).or (known hostname)

/-- The store has the latest of every host, unless that is still to be kept. -/
structure Upkeep (expiry : Duration) (kind : Backing.Kind) (known : String → Option Backing.Entry)
    (past : Landings) (scans : List Scan) (w : World) : Prop where
  stored :
    ∃ stored, Stores expiry kind stored w ∧ ∀ hostname, (∀ r, ⟨hostname, .keeping r⟩ ∉ scans) →
    stored hostname = latest kind known past hostname
  keeping : ∀ hostname r, ⟨hostname, .keeping r⟩ ∈ scans → (probesOf hostname past).head? = some r

theorem upkeep_nil (h : Stores expiry kind known w) : Upkeep expiry kind known [] [] w where
  stored := ⟨known, h, fun _ _ => rfl⟩
  keeping := fun _ _ hc => absurd hc List.not_mem_nil

theorem Upkeep.of_world {scans : List Scan} (hu : Upkeep expiry kind known past scans w)
    (hstores : ∀ stored, Stores expiry kind stored w → Stores expiry kind stored v) :
    Upkeep expiry kind known past scans v := by
  obtain ⟨⟨stored, hstored, hlatest⟩, hkeeping⟩ := hu
  exact ⟨⟨stored, hstores stored hstored, hlatest⟩, hkeeping⟩

theorem Upkeep.of_scans {scans scans' : List Scan} (hu : Upkeep expiry kind known past scans w)
    (hkeeping : ∀ hostname r, ⟨hostname, .keeping r⟩ ∈ scans' ↔ ⟨hostname, .keeping r⟩ ∈ scans) :
    Upkeep expiry kind known past scans' w := by
  obtain ⟨stored, hstored, hlatest⟩ := hu.stored
  refine ⟨⟨stored, hstored, fun hostname hnone => hlatest hostname fun r hc => ?_⟩,
    fun hostname r hc => ?_⟩
  · exact hnone r ((hkeeping hostname r).mpr hc)
  · exact hu.keeping hostname r ((hkeeping hostname r).mp hc)

theorem Upkeep.stores (hu : Upkeep expiry kind known past [] w) :
    Stores expiry kind (latest kind known past) w := by
  obtain ⟨stored, hstored, hlatest⟩ := hu.stored
  have heq : stored = latest kind known past :=
    funext fun hostname => hlatest hostname fun _ hc => absurd hc List.not_mem_nil
  rwa [heq] at hstored

namespace Probing

variable {p q : Probing} {m : Move} {i : Nat} {r : HostReport}

theorem upkeep_land (hd : p.Distinct) (hu : Upkeep expiry kind known past p.scans w) {endsAt : Nat}
    (hi : p.scans[i]? = some ⟨hostname, .probing endsAt⟩) (r : HostReport) :
    Upkeep expiry kind known ([(hostname, r)] ++ past)
      (p.scans.set i ⟨hostname, .keeping r⟩) w := by
  have hset (c : Scan) := mem_set_iff (c := c) hd.scans hi ⟨hostname, .keeping r⟩
  obtain ⟨stored, hstored, hlatest⟩ := hu.stored
  refine ⟨⟨stored, hstored, fun h hnone => ?_⟩, fun h r' hc => ?_⟩
  · have hne : h ≠ hostname := by
      rintro rfl
      exact hnone r ((hset _).mpr (.inl rfl))
    rw [latest, probesOf_other_ended hne]
    exact hlatest h fun r' hc => hnone r' ((hset _).mpr (.inr ⟨hc, hne⟩))
  · rcases (hset _).mp hc with heq | ⟨hc, hne⟩
    · cases heq
      rw [probesOf_ended]
      rfl
    · rw [probesOf_other_ended hne]
      exact hu.keeping h r' hc

theorem upkeep_keep (hd : p.Distinct) (hu : Upkeep expiry kind known past p.scans w)
    (hi : p.scans[i]? = some ⟨hostname, .keeping r⟩) :
    Upkeep expiry kind known past (p.scans.eraseIdx i) (DomainCheck.keep hostname r w) := by
  have herase (c : Scan) := mem_eraseIdx_iff (c := c) hd.scans hi
  obtain ⟨stored, hstored, hlatest⟩ := hu.stored
  refine ⟨⟨_, hstored.keep hostname r, fun h hnone => ?_⟩, fun h r' hc => ?_⟩
  · by_cases hne : h = hostname
    · subst hne
      rw [if_pos rfl, latest, hu.keeping h r (List.mem_of_getElem? hi)]
      rfl
    · rw [if_neg hne]
      exact hlatest h fun r' hc => hnone r' ((herase _).mpr ⟨hc, hne⟩)
  · exact hu.keeping h r' ((herase _).mp hc).1

theorem upkeep_step (hd : p.Distinct) (hu : Upkeep expiry kind known past p.scans w)
    (h : Step s p w m q v) :
    Upkeep expiry kind known (p.landed s w m ++ past) q.scans v := by
  cases h with
  | enter hp hroom =>
      refine hu.of_scans fun h r => ?_
      rw [List.mem_append, List.mem_singleton]
      exact or_iff_left nofun
  | reuse hi hr =>
      refine (hu.of_scans fun h r => ?_).of_world fun _ hstored => hstored.cached s _ _
      rw [mem_eraseIdx_iff hd.scans hi]
      exact and_iff_left_of_imp fun hc => hd.hostname_ne hi hc nofun
  | start hi hr =>
      refine (hu.of_scans fun h r => ?_).of_world fun _ hstored => hstored.cached s _ _
      rw [mem_set_iff hd.scans hi]
      refine Iff.trans (or_iff_right nofun) (and_iff_left_of_imp fun hc => ?_)
      exact hd.hostname_ne hi hc nofun
  | land hi =>
      rw [landed_land hi]
      refine (upkeep_land hd hu hi _).of_world fun _ hstored => hstored.of_cache_eq ?_
      exact (probed_spec s _ _ w).2.2.1
  | keep hi => exact upkeep_keep hd hu hi

end Probing

end MailAudit.DomainCheck
