import MailAudit.Proofs.DomainCheck.Written

namespace MailAudit.DomainCheck

variable {s : Services} {o : Outset}

def KeepsFreshness (clock : Clock) (fresh : String → Bool) (w : World) (limit : Nat) : Prop :=
  ∀ cache, w.cache = some cache → ∀ key r, cache.store.backing.get key = .ok (some r) →
    ∀ t, w.ticks ≤ t → t < limit → Scans.Cache.isFresh cache.expiry (clock t) r = fresh key

structure Outset.Steady (s : Services) (o : Outset) (limit : Nat) : Prop where
  nodup : o.hosts.Nodup
  fresh : KeepsFreshness s.clock o.fresh o.world limit

namespace Probing

variable {p q : Probing} {w v : World} {m : Move} {i : Nat} {hostname : String}

structure StoreFollows (s : Services) (o : Outset) (p : Probing)
    (before after : Scans.Cache) : Prop where
  expiry : after.expiry = before.expiry
  readRefusal : after.store.readRefusal = before.store.readRefusal
  writeRefusal : after.store.writeRefusal = before.store.writeRefusal
  reads : after.store.reads + (p.waiting.length + p.pending.length) =
    before.store.reads + o.hosts.length
  writes : after.store.writes = before.store.writes + o.written (p.reports.map Prod.fst)
  written : Written s o (p.reports.map Prod.fst) before.store.backing after.store.backing

def CacheFollows (s : Services) (o : Outset) (p : Probing) (w : World) : Prop :=
  (o.world.cache = none → w.cache = none) ∧
    ∀ before, o.world.cache = some before → ∃ after, w.cache = some after ∧
      StoreFollows s o p before after

structure Follows (s : Services) (o : Outset) (p : Probing) (w : World) : Prop where
  places : Places (Agrees (o.due s)) o.hosts p
  ordered : Ordered o.hosts p
  domain : p.domain = o.domain
  busy : ∀ c ∈ p.scans, c.stage ≠ .looking → o.reused c.hostname = none
  counters : w.raised + o.owed s p = o.world.raised + (o.hosts.map (o.hostCounters s)).sum +
    o.writesCounters (o.written (p.reports.map Prod.fst))
  cache : CacheFollows s o p w
  ticks : o.world.ticks ≤ w.ticks

theorem Places.notMem_reports {due : String → HostReport → Prop} {hosts : List String}
    (hp : Places due hosts p) (hnodup : hosts.Nodup) {stage : Stage}
    (hi : p.scans[i]? = some ⟨hostname, stage⟩) : hostname ∉ p.reports.map Prod.fst := by
  have hplaces := hp.perm.nodup_iff.mpr hnodup
  have hscans := (List.nodup_append.mp hplaces).2.1
  have hdisjoint := (List.nodup_append.mp hscans).2.2
  have hmem : hostname ∈ p.scans.map (·.hostname) :=
    List.mem_map.mpr ⟨_, List.mem_of_getElem? hi, rfl⟩
  exact fun h => hdisjoint hostname hmem hostname h rfl

theorem Ordered.idxOf_eq {hosts : List String} (ho : Ordered hosts p) (hnodup : hosts.Nodup)
    (hi : p.scans[i]? = some ⟨hostname, .looking⟩) :
    hosts.idxOf hostname + (p.waiting.length + p.pending.length) = hosts.length := by
  obtain ⟨looked, hhosts, -⟩ := ho.order
  have hwaiting := (waiting_of_looking ho.one hi).1
  rw [hwaiting] at hhosts ⊢
  rw [hhosts] at hnodup ⊢
  have hnot : hostname ∉ looked := by
    intro hmem
    exact (List.nodup_append.mp hnodup).2.2 hostname hmem hostname (by simp) rfl
  rw [List.idxOf_append_of_notMem hnot]
  simp
  omega

theorem find_eq_foreseen (hf : Follows s o p w) {limit : Nat} (hs : o.Steady s limit)
    (hi : p.scans[i]? = some ⟨hostname, .looking⟩)
    (hticks : (cached s p.domain hostname w).2.ticks ≤ limit) :
    find s.clock hostname w = o.foreseen hostname := by
  cases hcache : o.world.cache with
  | none => simp only [find, hf.cache.1 hcache, Outset.foreseen, hcache]
  | some before =>
      obtain ⟨after, hafter, hstore⟩ := hf.cache.2 before hcache
      -- The reads so far are those of the hosts that stand before this one.
      have hreads : after.store.reads = before.store.reads + o.hosts.idxOf hostname := by
        have hidx := hf.ordered.idxOf_eq hs.nodup hi
        have hreads := hstore.reads
        omega
      have hget : after.store.backing.get hostname = before.store.backing.get hostname := by
        rw [Scans.Backing.get_eq_read, Scans.Backing.get_eq_read, hstore.written.kind,
          hstore.written.same hostname (Or.inl (hf.places.notMem_reports hs.nodup hi))]
      have hlt : w.ticks < limit := by
        rw [(cached_spec s p.domain hostname w).2.2.2, hafter] at hticks
        exact hticks
      simp only [find, hafter, Outset.foreseen, hcache, Scans.Store.get, hreads,
        hstore.readRefusal, hget, hstore.expiry]
      cases before.store.readRefusal (before.store.reads + o.hosts.idxOf hostname) with
      | some e => rfl
      | none =>
          cases hread : before.store.backing.get hostname with
          | error e => rfl
          | ok answer =>
              cases answer with
              | none => rfl
              | some r => simp only [hs.fresh before hcache hostname r hread w.ticks hf.ticks hlt]

theorem owed_set {c : Scan} (hi : p.scans[i]? = some c) (d : Scan)
    (hpending : q.pending = p.pending) (hscans : q.scans = p.scans.set i d) :
    o.owed s q + o.scanCounters s c = o.owed s p + o.scanCounters s d := by
  obtain ⟨before, behind, hsplit, hset, -⟩ := exists_split hi
  simp only [Outset.owed, hpending, hscans, hset]
  rw [hsplit]
  simp only [List.map_append, List.map_cons, List.sum_append, List.sum_cons]
  abel

theorem owed_eraseIdx {c : Scan} (hi : p.scans[i]? = some c) (hpending : q.pending = p.pending)
    (hscans : q.scans = p.scans.eraseIdx i) : o.owed s q + o.scanCounters s c = o.owed s p := by
  obtain ⟨before, behind, hsplit, -, herase⟩ := exists_split hi
  simp only [Outset.owed, hpending, hscans, herase]
  rw [hsplit]
  simp only [List.map_append, List.map_cons, List.sum_append, List.sum_cons]
  abel

theorem conserved_of_owed {counted total : Multiset Counter} (hf : w.raised + o.owed s p = total)
    (hraised : v.raised = counted + w.raised) (howed : o.owed s q + counted = o.owed s p) :
    v.raised + o.owed s q = total := by
  rw [← hf, ← howed, hraised]
  abel

theorem takes_eq {before after : Scans.Cache} (hbefore : o.world.cache = some before)
    (hstore : StoreFollows s o p before after) :
    after.store.takes after.store.writes = o.takes (o.written (p.reports.map Prod.fst)) := by
  simp only [Outset.takes, hbefore, Option.any_some, Scans.Store.takes, hstore.writeRefusal,
    hstore.written.kind, hstore.writes]

theorem keptCounters_eq (hc : CacheFollows s o p w) (r : HostReport) :
    keptCounters hostname r w = o.writeCounters (o.written (p.reports.map Prod.fst)) := by
  cases hcache : o.world.cache with
  | none => simp [keptCounters, hc.1 hcache, Outset.writeCounters, hcache]
  | some before =>
      obtain ⟨after, hafter, hstore⟩ := hc.2 before hcache
      have htakes := takes_eq hcache hstore
      cases hw : o.takes (o.written (p.reports.map Prod.fst)) with
      | true =>
          have hput := (Scans.Store.put_of_takes (htakes.trans hw) hostname r).1
          simp [keptCounters, hafter, Scans.Cache.put, hput, Outset.writeCounters, hcache, hw]
      | false =>
          obtain ⟨e, hput⟩ := (Scans.Store.put_of_not_takes (htakes.trans hw) hostname r).1
          simp [keptCounters, hafter, Scans.Cache.put, hput, Outset.writeCounters, hcache, hw]

def Foretold (s : Services) (o : Outset) (p : Probing) (w : World) (m : Move) : Prop :=
  ∀ i hostname, m = .look i → p.scans[i]? = some ⟨hostname, .looking⟩ →
    find s.clock hostname w = o.foreseen hostname

theorem Foretold.reused_eq (hfound : Foretold s o p w (.look i)) (hf : Follows s o p w)
    (hi : p.scans[i]? = some ⟨hostname, .looking⟩) :
    (find s.clock hostname w).reused p.domain hostname = o.reused hostname := by
  rw [hfound i hostname rfl hi, hf.domain]
  rfl

theorem counters_step (ht : Timeless s) (hf : Follows s o p w) (hfound : Foretold s o p w m)
    (h : Step s p w m q v) :
    v.raised + o.owed s q = o.world.raised + (o.hosts.map (o.hostCounters s)).sum +
      o.writesCounters (o.written (q.reports.map Prod.fst)) := by
  -- A move counts what its scan no longer owes.
  cases h with
  | @enter hostname pending hp hroom =>
      rw [← hf.counters]
      simp only [Outset.owed, hp, List.map_append, List.map_cons, List.map_nil, List.sum_append,
        List.sum_cons, List.sum_nil, Outset.scanCounters]
      abel
  | @reuse i hostname r hi hr =>
      have howed := owed_eraseIdx (o := o) (s := s) (q := { p with
        scans := p.scans.eraseIdx i, reports := (hostname, r) :: p.reports }) hi rfl rfl
      rw [hfound.reused_eq hf hi] at hr
      have hcounters : o.scanCounters s ⟨hostname, .looking⟩ = (o.foreseen hostname).counters := by
        simp [Outset.scanCounters, Outset.hostCounters, hr]
      rw [hcounters, ← hfound i hostname rfl hi] at howed
      rw [List.map_cons, Outset.written_cons_of_reused (by rw [hr]; rfl)]
      exact conserved_of_owed hf.counters (cached_spec s p.domain hostname w).2.1 howed
  | @start i hostname mostInFlight hi hr =>
      have howed := owed_set (o := o) (s := s) (q := { p with
        scans := p.scans.set i ⟨hostname, .probing (p.time + s.delay hostname)⟩
        probes := ⟨hostname, p.time, p.time + s.delay hostname⟩ :: p.probes
        mostInFlight }) hi ⟨hostname, .probing (p.time + s.delay hostname)⟩ rfl rfl
      rw [hfound.reused_eq hf hi] at hr
      have hcounters : o.scanCounters s ⟨hostname, .looking⟩ = (o.foreseen hostname).counters +
          o.scanCounters s ⟨hostname, .probing (p.time + s.delay hostname)⟩ := by
        simp [Outset.scanCounters, Outset.hostCounters, hr]
      rw [hcounters, ← add_assoc, ← hfound i hostname rfl hi] at howed
      exact conserved_of_owed hf.counters (cached_spec s p.domain hostname w).2.1
        (add_right_cancel howed)
  | @land i hostname endsAt hi =>
      have howed := owed_set (o := o) (s := s) (q := { p with
        time := max p.time endsAt
        scans := p.scans.set i ⟨hostname, .keeping (probed s p.domain hostname w).1⟩ }) hi
        ⟨hostname, .keeping (probed s p.domain hostname w).1⟩ rfl rfl
      have hraised := (probed_spec s p.domain hostname w).2.1
      rw [hf.domain, ht.probeCounters o.domain hostname (s.clock w.ticks) default, ← hf.domain]
        at hraised
      simp only [Outset.scanCounters, add_zero, Outset.probeCounters, ← hf.domain] at howed
      exact conserved_of_owed hf.counters hraised howed
  | @keep i hostname r hi =>
      have howed := owed_eraseIdx (o := o) (s := s) (q := { p with
        scans := p.scans.eraseIdx i, reports := (hostname, r) :: p.reports }) hi rfl rfl
      simp only [Outset.scanCounters, add_zero] at howed
      have hprobed := hf.busy _ (List.mem_of_getElem? hi) (by simp)
      rw [List.map_cons, Outset.written_cons_of_probed hprobed,
        Outset.writesCounters_succ, ← add_assoc, ← hf.counters, howed, (keep_spec hostname r w).1,
        keptCounters_eq hf.cache r]
      abel

theorem StoreFollows.frame {before after after' : Scans.Cache}
    (hstore : StoreFollows s o p before after) (hexpiry : after'.expiry = after.expiry)
    (hread : after'.store.readRefusal = after.store.readRefusal)
    (hwrite : after'.store.writeRefusal = after.store.writeRefusal)
    (hbacking : after'.store.backing = after.store.backing)
    (hreads : after'.store.reads + (q.waiting.length + q.pending.length) =
      after.store.reads + (p.waiting.length + p.pending.length))
    (hwrites : after'.store.writes = after.store.writes)
    (hwritten : o.written (q.reports.map Prod.fst) = o.written (p.reports.map Prod.fst))
    (hkeys : ∀ key, o.reused key = none →
      (key ∈ p.reports.map Prod.fst ↔ key ∈ q.reports.map Prod.fst)) :
    StoreFollows s o q before after' where
  expiry := hexpiry.trans hstore.expiry
  readRefusal := hread.trans hstore.readRefusal
  writeRefusal := hwrite.trans hstore.writeRefusal
  reads := hreads.trans hstore.reads
  writes := by rw [hwrites, hwritten, hstore.writes]
  written := by
    rw [hbacking]
    exact hstore.written.congr hkeys

theorem CacheFollows.readOnce (hc : CacheFollows s o p w) (hcache : v.cache = w.cache.map readOnce)
    (hlength : q.waiting.length + q.pending.length + 1 = p.waiting.length + p.pending.length)
    (hwritten : o.written (q.reports.map Prod.fst) = o.written (p.reports.map Prod.fst))
    (hkeys : ∀ key, o.reused key = none →
      (key ∈ p.reports.map Prod.fst ↔ key ∈ q.reports.map Prod.fst)) :
    CacheFollows s o q v := by
  refine ⟨fun hnone => by rw [hcache, hc.1 hnone]; rfl, fun before hbefore => ?_⟩
  obtain ⟨after, hafter, hstore⟩ := hc.2 before hbefore
  refine ⟨DomainCheck.readOnce after, by rw [hcache, hafter]; rfl,
    hstore.frame rfl rfl rfl rfl ?_ rfl hwritten hkeys⟩
  simp only [DomainCheck.readOnce]
  omega

theorem CacheFollows.frame (hc : CacheFollows s o p w) (hcache : v.cache = w.cache)
    (hlength : q.waiting.length + q.pending.length = p.waiting.length + p.pending.length)
    (hreports : q.reports = p.reports) : CacheFollows s o q v := by
  refine ⟨fun hnone => hcache.trans (hc.1 hnone), fun before hbefore => ?_⟩
  obtain ⟨after, hafter, hstore⟩ := hc.2 before hbefore
  refine ⟨after, hcache.trans hafter,
    hstore.frame rfl rfl rfl rfl (by rw [hlength]) rfl (by rw [hreports]) fun key _ => ?_⟩
  rw [hreports]

theorem StoreFollows.put {before after : Scans.Cache} (hstore : StoreFollows s o p before after)
    (hbefore : o.world.cache = some before) {r : HostReport} (hr : r.untimed = o.due s hostname)
    (hprobed : o.reused hostname = none)
    (hlength : q.waiting.length + q.pending.length = p.waiting.length + p.pending.length)
    (hreports : q.reports = (hostname, r) :: p.reports) :
    StoreFollows s o q before (after.put hostname r).1 := by
  obtain ⟨hread, hwrite, hreads, hwrites, -⟩ := after.store.put_frame hostname r
  refine ⟨hstore.expiry, hread.trans hstore.readRefusal,
    hwrite.trans hstore.writeRefusal, ?_, ?_, ?_⟩
  · have hbefore := hstore.reads
    rw [← hlength, ← hreads] at hbefore
    exact hbefore
  · rw [hreports, List.map_cons, Outset.written_cons_of_probed hprobed, ← Nat.add_assoc,
      ← hstore.writes]
    exact hwrites
  · rw [hreports, List.map_cons]
    exact hstore.written.put (takes_eq hbefore hstore) hr hprobed

theorem cache_step (hf : Follows s o p w) (hfound : Foretold s o p w m)
    (hsettled : m = .enter → p.Settled) (h : Step s p w m q v) : CacheFollows s o q v := by
  cases h with
  | @enter hostname pending hp hroom =>
      refine hf.cache.frame rfl ?_ rfl
      have hnone := settled_iff.mp (hsettled rfl)
      have hwaiting := waiting_of_enter (hsettled rfl) hostname
      rw [hnone, hp, waiting, hwaiting]
      simp [Nat.add_comm]
  | @reuse i hostname r hi hr =>
      obtain ⟨hwaiting, hafter, -⟩ := waiting_of_looking hf.ordered.one hi
      rw [hfound.reused_eq hf hi] at hr
      refine hf.cache.readOnce (cached_spec s p.domain hostname w).2.2.1 ?_ ?_ fun key hnone => ?_
      · rw [waiting, hafter, hwaiting]
        simp [Nat.add_comm]
      · exact Outset.written_cons_of_reused (by rw [hr]; rfl) _
      · refine ⟨List.mem_cons_of_mem _, fun hkey => (List.mem_cons.mp hkey).resolve_left ?_⟩
        rintro rfl
        rw [hnone] at hr
        cases hr
  | @start i hostname mostInFlight hi hr =>
      obtain ⟨hwaiting, -, hafter⟩ := waiting_of_looking hf.ordered.one hi
      have hafter := hafter ⟨hostname, .probing (p.time + s.delay hostname)⟩ rfl
      refine hf.cache.readOnce (cached_spec s p.domain hostname w).2.2.1 ?_ rfl fun key _ => Iff.rfl
      rw [waiting, hafter, hwaiting]
      simp [Nat.add_comm]
  | @land i hostname endsAt hi =>
      have hafter := (waiting_of_busy hi rfl).2
        ⟨hostname, .keeping (probed s p.domain hostname w).1⟩ rfl
      exact hf.cache.frame (probed_spec s p.domain hostname w).2.2.1 (by rw [waiting, hafter]) rfl
  | @keep i hostname r hi =>
      have hafter := (waiting_of_busy hi rfl).1
      have hmem := List.mem_of_getElem? hi
      have hspec := (keep_spec hostname r w).2.1
      refine ⟨fun hnone => by rw [hspec, hf.cache.1 hnone]; rfl, fun before hbefore => ?_⟩
      obtain ⟨after, hcache, hstore⟩ := hf.cache.2 before hbefore
      refine ⟨(after.put hostname r).1, by rw [hspec, hcache]; rfl, ?_⟩
      exact hstore.put hbefore (hf.places.kept _ hmem r rfl)
        (hf.busy _ hmem (by simp)) (by rw [waiting, hafter]) rfl

theorem busy_step (hf : Follows s o p w) (hfound : Foretold s o p w m) (h : Step s p w m q v) :
    ∀ c ∈ q.scans, c.stage ≠ .looking → o.reused c.hostname = none := by
  intro c hc hstage
  cases h with
  | enter hp hroom =>
      rcases List.mem_append.mp hc with hc | hc
      · exact hf.busy c hc hstage
      · rw [List.mem_singleton.mp hc] at hstage
        exact absurd rfl hstage
  | reuse hi hr => exact hf.busy c (List.mem_of_mem_eraseIdx hc) hstage
  | @start i hostname mostInFlight hi hr =>
      rw [hfound.reused_eq hf hi] at hr
      rcases List.mem_or_eq_of_mem_set hc with hc | rfl
      · exact hf.busy c hc hstage
      · exact hr
  | @land i hostname endsAt hi =>
      rcases List.mem_or_eq_of_mem_set hc with hc | rfl
      · exact hf.busy c hc hstage
      · exact hf.busy ⟨hostname, .probing endsAt⟩ (List.mem_of_getElem? hi) (by simp)
  | keep hi => exact hf.busy c (List.mem_of_mem_eraseIdx hc) hstage

theorem provides_due (ht : Timeless s) (hf : Follows s o p w) (hfound : Foretold s o p w m) :
    Provides s (Agrees (o.due s)) p w m where
  reused i hostname r hm hi hr := by
    subst hm
    rw [hfound.reused_eq hf hi] at hr
    rw [Agrees, Outset.due, hr]
  probed i hostname endsAt hm hi := by
    have hnone := hf.busy _ (List.mem_of_getElem? hi) (by simp)
    rw [Agrees, Outset.due, hnone, (probed_spec s p.domain hostname w).1, hf.domain]
    exact ht.probe o.domain hostname _ _

theorem foretold_of_step {limit : Nat} (hs : o.Steady s limit) (hf : Follows s o p w)
    (h : Step s p w m q v) (hlimit : v.ticks ≤ limit) : Foretold s o p w m := by
  rintro i hostname rfl hi
  have hworld : v = (cached s p.domain hostname w).2 := by
    cases h with
    | reuse hi' hr =>
        rw [hi] at hi'
        cases hi'
        rfl
    | start hi' hr =>
        rw [hi] at hi'
        cases hi'
        rfl
  exact find_eq_foreseen hf hs hi (hworld ▸ hlimit)

theorem Follows.step (ht : Timeless s) {limit : Nat} (hs : o.Steady s limit) (hf : Follows s o p w)
    (hsettled : m = .enter → p.Settled) (h : Step s p w m q v) (hlimit : v.ticks ≤ limit) :
    Follows s o q v :=
  have hfound := foretold_of_step hs hf h hlimit
  { places := hf.places.step (provides_due ht hf hfound) h
    ordered := hf.ordered.step hsettled h
    domain := (domain_step h).trans hf.domain
    busy := busy_step hf hfound h
    counters := counters_step ht hf hfound h
    cache := cache_step hf hfound hsettled h
    ticks := hf.ticks.trans (ticks_step h) }

theorem follows_outset (s : Services) (o : Outset) :
    Follows s o { domain := o.domain, pending := o.hosts } o.world where
  places := places_pending _ _ _
  ordered := ⟨⟨[], rfl, .refl _⟩, Nat.zero_le _⟩
  domain := rfl
  busy _ hc := (List.not_mem_nil hc).elim
  counters := by simp [Outset.owed, Outset.written, Outset.writesCounters]
  cache := by
    refine ⟨id, fun before hbefore => ⟨before, hbefore, rfl, rfl, rfl, ?_, rfl, .refl s o _⟩⟩
    simp [waiting]
  ticks := Nat.le_refl _

end Probing

end MailAudit.DomainCheck
