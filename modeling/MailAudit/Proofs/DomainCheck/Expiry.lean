import MailAudit.Program.Initialization
import MailAudit.Proofs.DomainCheck.Landing
import MailAudit.Proofs.Scans.Expiry

/-! Checks one after another over one cache in memory. What the cache has of a host is the report of
its latest probe, so that the host is probed again exactly if that report has expired. -/

namespace MailAudit

open Scans.Cache (Expired)

structure Services.StampedBy (s : Services) (clock : Clock) : Prop where
  clock_eq : s.clock = clock
  stamps : ∀ domain hostname now, (s.probe domain hostname now).1.observedAt = now

namespace DomainCheck

variable {s : Services} {clock : Clock} {expiry : Duration} {known stored : Keyed HostReport}
  {past : Landings} {hostname : String} {w v : World}

def Caches (expiry : Duration) (stored : Keyed HostReport) (w : World) : Prop :=
  ∃ reads writes, w.cache = some ⟨{ backing := .memory stored, reads, writes }, expiry⟩

theorem Caches.of_cache_eq (h : Caches expiry stored w) (heq : v.cache = w.cache) :
    Caches expiry stored v := by
  obtain ⟨reads, writes, hcache⟩ := h
  exact ⟨reads, writes, heq.trans hcache⟩

theorem Caches.cached (h : Caches expiry stored w) (s : Services) (domain hostname : String) :
    Caches expiry stored (cached s domain hostname w).2 := by
  obtain ⟨reads, writes, hcache⟩ := h
  refine ⟨reads + 1, writes, ?_⟩
  rw [(cached_spec s domain hostname w).2.2.1, hcache]
  rfl

theorem Caches.keep (h : Caches expiry stored w) (hostname : String) (r : HostReport) :
    Caches expiry (stored.insert hostname r) (keep hostname r w) := by
  obtain ⟨reads, writes, hcache⟩ := h
  refine ⟨reads, writes + 1, ?_⟩
  rw [(keep_spec hostname r w).2.1, hcache]
  rfl

theorem Caches.reused (h : Caches expiry stored w) (clock : Clock) (domain hostname : String) :
    (find clock hostname w).reused domain hostname =
      ((stored.get? hostname).filter (Scans.Cache.isFresh expiry (clock w.ticks))).map fun r =>
        .observed domain hostname r.checks r.observedAt := by
  obtain ⟨reads, writes, hcache⟩ := h
  simp only [find, hcache, Scans.Store.get, Scans.Backing.get]
  cases stored.get? hostname with
  | none => rfl
  | some r =>
      rw [Option.filter_some]
      cases hfresh : Scans.Cache.isFresh expiry (clock w.ticks) r with
      | true => simp only [hfresh, if_true, Finding.reused, Option.map_some]
      | false =>
          simp only [hfresh, Bool.false_eq_true, if_false, Finding.reused]
          rfl

/-- The cache has the latest report on every host, unless that is still to be kept; before the first
probe it has what was known at the outset. A host that is being probed had no fresh report. -/
structure Recalls (clock : Clock) (expiry : Duration) (known : Keyed HostReport) (past : Landings)
    (scans : List Scan) (w : World) : Prop where
  stored : ∃ stored, Caches expiry stored w ∧ ∀ hostname, (∀ r, ⟨hostname, .keeping r⟩ ∉ scans) →
    stored.get? hostname = (probesOf hostname past).head?.or (known.get? hostname)
  keeping : ∀ hostname r, ⟨hostname, .keeping r⟩ ∈ scans → (probesOf hostname past).head? = some r
  probing : ∀ hostname endsAt, ⟨hostname, .probing endsAt⟩ ∈ scans →
    ∀ r ∈ probesOf hostname past, Expired expiry (clock w.ticks) r.observedAt
  noLeap : ∀ hostname, ∀ r ∈ probesOf hostname past, r.observedAt.nanos < 1000000000
  spaced : ∀ hostname, (probesOf hostname past).Pairwise fun later earlier =>
    Expired expiry later.observedAt earlier.observedAt

theorem recalls_nil (h : Caches expiry known w) : Recalls clock expiry known [] [] w where
  stored := ⟨known, h, fun _ _ => rfl⟩
  keeping := fun _ _ hc => absurd hc List.not_mem_nil
  probing := fun _ _ hc => absurd hc List.not_mem_nil
  noLeap := fun _ _ hr => absurd hr List.not_mem_nil
  spaced := fun _ => List.Pairwise.nil

theorem Recalls.of_world {scans : List Scan} (hclock : clock.Steady)
    (hr : Recalls clock expiry known past scans w)
    (hcaches : ∀ stored, Caches expiry stored w → Caches expiry stored v)
    (hticks : w.ticks ≤ v.ticks) :
    Recalls clock expiry known past scans v := by
  obtain ⟨stored, hcache, hlatest⟩ := hr.stored
  refine ⟨⟨stored, hcaches stored hcache, hlatest⟩, hr.keeping, ?_, hr.noLeap, hr.spaced⟩
  intro hostname endsAt hc r hmem
  exact (hr.probing hostname endsAt hc r hmem).later (hclock.le hticks)

theorem Recalls.of_scans {scans scans' : List Scan} (hr : Recalls clock expiry known past scans w)
    (hkeeping : ∀ hostname r, ⟨hostname, .keeping r⟩ ∈ scans' ↔ ⟨hostname, .keeping r⟩ ∈ scans)
    (hprobing : ∀ hostname endsAt, ⟨hostname, .probing endsAt⟩ ∈ scans' →
      ∀ r ∈ probesOf hostname past, Expired expiry (clock w.ticks) r.observedAt) :
    Recalls clock expiry known past scans' w := by
  obtain ⟨stored, hcache, hlatest⟩ := hr.stored
  refine ⟨⟨stored, hcache, fun hostname hnone => hlatest hostname fun r hc => ?_⟩, ?_,
    hprobing, hr.noLeap, hr.spaced⟩
  · exact hnone r ((hkeeping hostname r).mpr hc)
  · intro hostname r hc
    exact hr.keeping hostname r ((hkeeping hostname r).mp hc)

namespace Probing

variable {p q : Probing} {m : Move} {i : Nat} {r : HostReport}

theorem reused_look (hclock : clock.Steady) (hd : p.Distinct)
    (hr : Recalls clock expiry known past p.scans w) (hi : p.scans[i]? = some ⟨hostname, .looking⟩)
    (hlatest : (probesOf hostname past).head? = some r) (domain : String) :
    Expired expiry (clock w.ticks) r.observedAt ∧
    (find clock hostname w).reused domain hostname = none ∨
      ¬ Expired expiry (clock w.ticks) r.observedAt ∧
      (find clock hostname w).reused domain hostname =
        some (.observed domain hostname r.checks r.observedAt) := by
  obtain ⟨stored, hcaches, hstored⟩ := hr.stored
  have hnone (r' : HostReport) : ⟨hostname, .keeping r'⟩ ∉ p.scans := by
    intro hc
    exact hd.hostname_ne hi hc nofun rfl
  have hget : stored.get? hostname = some r := by
    rw [hstored hostname hnone, hlatest]
    rfl
  have hfresh : Scans.Cache.isFresh expiry (clock w.ticks) r = true ↔
      ¬ Expired expiry (clock w.ticks) r.observedAt :=
    Scans.Cache.isFresh_iff (hclock.noLeap w.ticks)
      (hr.noLeap hostname r (List.mem_of_mem_head? hlatest))
  rw [hcaches.reused clock domain hostname, hget, Option.filter_some]
  by_cases hexpired : Expired expiry (clock w.ticks) r.observedAt
  · refine .inl ⟨hexpired, ?_⟩
    rw [if_neg fun h => hfresh.mp h hexpired]
    rfl
  · refine .inr ⟨hexpired, ?_⟩
    rw [if_pos (hfresh.mpr hexpired)]
    rfl

theorem expired_of_start (hclock : clock.Steady) (hd : p.Distinct)
    (hr : Recalls clock expiry known past p.scans w) (hi : p.scans[i]? = some ⟨hostname, .looking⟩)
    (hnone : (find clock hostname w).reused p.domain hostname = none) :
    ∀ r ∈ probesOf hostname past, Expired expiry (clock w.ticks) r.observedAt := by
  cases hpast : probesOf hostname past with
  | nil => exact fun r hmem => absurd hmem List.not_mem_nil
  | cons latest earlier =>
      have hlatest : (probesOf hostname past).head? = some latest := by
        rw [hpast]
        rfl
      have hspaced := hr.spaced hostname
      rw [hpast] at hspaced
      have hexpired : Expired expiry (clock w.ticks) latest.observedAt := by
        rcases reused_look hclock hd hr hi hlatest p.domain with ⟨hexpired, -⟩ | ⟨-, hsome⟩
        · exact hexpired
        · rw [hnone] at hsome
          cases hsome
      -- Older reports have expired the more, for each of them had when the next probe was made.
      intro r hmem
      rcases List.mem_cons.mp hmem with rfl | hmem
      · exact hexpired
      · exact hexpired.trans ((List.pairwise_cons.mp hspaced).1 r hmem)

theorem recalls_land (hclock : clock.Steady) (hs : s.StampedBy clock) (hd : p.Distinct)
    (hr : Recalls clock expiry known past p.scans w) {endsAt : Nat}
    (hi : p.scans[i]? = some ⟨hostname, .probing endsAt⟩) :
    Recalls clock expiry known ([(hostname, (probed s p.domain hostname w).1)] ++ past)
      (p.scans.set i ⟨hostname, .keeping (probed s p.domain hostname w).1⟩)
      (probed s p.domain hostname w).2 := by
  obtain ⟨hreport, -, hcache, hticks⟩ := probed_spec s p.domain hostname w
  have hstamp : (probed s p.domain hostname w).1.observedAt = clock w.ticks := by
    rw [hreport, hs.stamps, hs.clock_eq]
  generalize (probed s p.domain hostname w).1 = r at hstamp
  have hset (c : Scan) := mem_set_iff (c := c) hd.scans hi ⟨hostname, .keeping r⟩
  constructor
  case stored =>
    -- The new report is not in the cache yet, but it is still to be kept.
    obtain ⟨stored, hcaches, hlatest⟩ := hr.stored
    refine ⟨stored, hcaches.of_cache_eq hcache, fun h hnone => ?_⟩
    have hne : h ≠ hostname := by
      rintro rfl
      exact hnone r ((hset _).mpr (.inl rfl))
    rw [probesOf_other_ended hne]
    exact hlatest h fun r' hc => hnone r' ((hset _).mpr (.inr ⟨hc, hne⟩))
  case keeping =>
    intro h r' hc
    rcases (hset _).mp hc with heq | ⟨hc, hne⟩
    · cases heq
      rw [probesOf_ended]
      rfl
    · rw [probesOf_other_ended hne]
      exact hr.keeping h r' hc
  case probing =>
    intro h endsAt' hc
    rcases (hset _).mp hc with heq | ⟨hc, hne⟩
    · cases heq
    · rw [probesOf_other_ended hne, hticks]
      exact fun r' hmem => (hr.probing h endsAt' hc r' hmem).later (hclock.le_succ _)
  case noLeap =>
    intro h
    by_cases hne : h = hostname
    · subst hne
      rw [probesOf_ended]
      intro r' hmem
      rcases List.mem_cons.mp hmem with rfl | hmem
      · rw [hstamp]
        exact hclock.noLeap _
      · exact hr.noLeap h r' hmem
    · rw [probesOf_other_ended hne]
      exact hr.noLeap h
  case spaced =>
    intro h
    by_cases hne : h = hostname
    · subst hne
      rw [probesOf_ended]
      refine List.pairwise_cons.mpr ⟨fun r' hmem => ?_, hr.spaced h⟩
      rw [hstamp]
      exact hr.probing h endsAt (List.mem_of_getElem? hi) r' hmem
    · rw [probesOf_other_ended hne]
      exact hr.spaced h

theorem recalls_keep (hd : p.Distinct) (hr : Recalls clock expiry known past p.scans w)
    (hi : p.scans[i]? = some ⟨hostname, .keeping r⟩) :
    Recalls clock expiry known past (p.scans.eraseIdx i) (DomainCheck.keep hostname r w) := by
  have herase (c : Scan) := mem_eraseIdx_iff (c := c) hd.scans hi
  obtain ⟨stored, hcaches, hlatest⟩ := hr.stored
  refine ⟨⟨stored.insert hostname r, hcaches.keep hostname r, fun h hnone => ?_⟩, fun h r' hc => ?_,
    fun h endsAt hc => ?_, hr.noLeap, hr.spaced⟩
  · rw [Keyed.get?_insert]
    by_cases hne : h = hostname
    · subst hne
      rw [if_pos rfl, hr.keeping h r (List.mem_of_getElem? hi)]
      rfl
    · rw [if_neg hne]
      exact hlatest h fun r' hc => hnone r' ((herase _).mpr ⟨hc, hne⟩)
  · exact hr.keeping h r' ((herase _).mp hc).1
  · rw [(keep_spec hostname r w).2.2]
    exact hr.probing h endsAt ((herase _).mp hc).1

theorem recalls_step (hclock : clock.Steady) (hs : s.StampedBy clock) (hd : p.Distinct)
    (hr : Recalls clock expiry known past p.scans w) (h : Step s p w m q v) :
    Recalls clock expiry known (p.landed s w m ++ past) q.scans v := by
  have hlook {hostname : String} : w.ticks ≤ (cached s p.domain hostname w).2.ticks := by
    rw [(cached_spec s p.domain hostname w).2.2.2]
    exact Nat.le_add_right _ _
  cases h with
  | enter hp hroom =>
      refine hr.of_scans (fun h r => ?_) (fun h endsAt hc => ?_)
      · rw [List.mem_append, List.mem_singleton]
        exact or_iff_left nofun
      · rw [List.mem_append, List.mem_singleton] at hc
        exact hr.probing h endsAt (hc.resolve_right nofun)
  | reuse hi hr' =>
      refine (hr.of_scans (fun h r => ?_) (fun h endsAt hc => ?_)).of_world hclock
        (fun _ hcaches => hcaches.cached s _ _) hlook
      · rw [mem_eraseIdx_iff hd.scans hi]
        exact and_iff_left_of_imp fun hc => hd.hostname_ne hi hc nofun
      · exact hr.probing h endsAt ((mem_eraseIdx_iff hd.scans hi).mp hc).1
  | start hi hnone =>
      rw [hs.clock_eq] at hnone
      have hexpired := expired_of_start hclock hd hr hi hnone
      refine (hr.of_scans (fun h r => ?_) (fun h endsAt hc => ?_)).of_world hclock
        (fun _ hcaches => hcaches.cached s _ _) hlook
      · rw [mem_set_iff hd.scans hi]
        refine Iff.trans (or_iff_right nofun) (and_iff_left_of_imp fun hc => ?_)
        exact hd.hostname_ne hi hc nofun
      · rcases (mem_set_iff hd.scans hi _).mp hc with heq | ⟨hc, -⟩
        · cases heq
          exact hexpired
        · exact hr.probing h endsAt hc
  | land hi =>
      rw [landed_land hi]
      exact recalls_land hclock hs hd hr hi
  | keep hi => exact recalls_keep hd hr hi

end Probing

namespace Inquiry

variable {q r : Inquiry} {m : Move} {landings : Landings} {name : String}

def scans : Inquiry → List Scan
  | scanning _ _ p => p.scans
  | _ => []

def Tidy (name : String) : Inquiry → Prop
  | asked domain _ => HostName.normalize domain = name
  | scanning _ _ p => p.domain = name ∧ p.Distinct
  | answered _ => True

theorem tidy_step (ht : q.Tidy name) (h : Step s q w m r v) : r.Tidy name := by
  cases h with
  | settle hopened hraised hcache hticks => trivial
  | embark hsome hchosen => exact ⟨ht, Probing.distinct_pending (nodup_chosen s _ _)⟩
  | scan hstep =>
      have hprobing := Probing.step_of_step? hstep
      exact ⟨(Probing.domain_step hprobing).trans ht.1, ht.2.step hprobing⟩
  | conclude hdone => trivial

theorem recalls_step (hclock : clock.Steady) (hs : s.StampedBy clock) (ht : q.Tidy name)
    (hr : Recalls clock expiry known past q.scans w) (h : Step s q w m r v) :
    Recalls clock expiry known (q.landed s w m ++ past) r.scans v := by
  cases h with
  | settle hopened hraised hcache hticks =>
      refine hr.of_world hclock (fun _ hcaches => hcaches.of_cache_eq ?_) ?_
      · rw [(finish_spec _ _).2.1, hcache]
      · rw [(finish_spec _ _).2.2]
        exact hticks
  | embark hsome hchosen =>
      obtain ⟨-, -, hcache, hticks⟩ := mxHosts_spec s (HostName.normalize _) w
      exact hr.of_world hclock (fun _ hcaches => hcaches.of_cache_eq hcache) hticks.ge
  | scan hstep => exact Probing.recalls_step hclock hs ht.2 hr (Probing.step_of_step? hstep)
  | @conclude all hosts p w hdone =>
      obtain ⟨-, -, -, hcache, hticks⟩ := conclude_spec s all hosts p w
      obtain ⟨-, hscans⟩ := Probing.isDone_iff.mp hdone
      have hnone : Recalls clock expiry known past [] w := hscans ▸ hr
      refine hnone.of_world hclock (fun _ hcaches => hcaches.of_cache_eq ?_) ?_
      · rw [(finish_spec _ _).2.1, hcache]
      · rw [(finish_spec _ _).2.2, hticks]
        exact Nat.le_succ _

theorem Lands.recalls (hclock : clock.Steady) (hs : s.StampedBy clock) {q₀ : Inquiry} {w₀ : World}
    (ht : q₀.Tidy name) (hr : Recalls clock expiry known past q₀.scans w₀)
    (h : Lands s q₀ w₀ landings q w) :
    q.Tidy name ∧ Recalls clock expiry known (landings ++ past) q.scans w := by
  induction h with
  | refl => exact ⟨ht, hr⟩
  | tail _ hstep ih =>
      have hone := step_of_step? hstep
      rw [List.append_assoc]
      exact ⟨tidy_step ih.1 hone, recalls_step hclock hs ih.1 ih.2 hone⟩

end Inquiry

/-- Whole checks one after another, with the probes that ended in them. All read the same clock;
otherwise the services may change from one check to the next. -/
inductive Checks (clock : Clock) (w₀ : World) : Landings → World → Prop
  | none : Checks clock w₀ [] w₀
  | more {past w s domain expected landings result v} : Checks clock w₀ past w → s.StampedBy clock →
      Inquiry.Lands s (.asked domain expected) w landings (.answered result) v →
      Checks clock w₀ (landings ++ past) v

theorem Checks.recalls (hclock : clock.Steady) {w₀ : World} (hcaches : Caches expiry known w₀)
    (h : Checks clock w₀ past w) : Recalls clock expiry known past [] w := by
  induction h with
  | none => exact recalls_nil hcaches
  | @more past w s domain expected landings result v _ hs hlands ih =>
      have htidy : (Inquiry.asked domain expected).Tidy (HostName.normalize domain) := rfl
      exact (hlands.recalls hclock hs htidy ih).2

/-- In checks one after another over one cache in memory, two probes of a host are always further
apart than the expiry. A host that is looked up after a probe of it is probed once more if the
report has expired, and comes out with the new report; otherwise it is not probed, and the report is
made out anew. -/
theorem probed_again_iff_expired (hclock : clock.Steady) {w₀ w₁ : World}
    (hcaches : Caches expiry known w₀) (hchecks : Checks clock w₀ past w₁) (hs : s.StampedBy clock)
    {domain : String} {expected : List String} {landings : Landings} {q : Inquiry}
    (h : Inquiry.Lands s (.asked domain expected) w₁ landings q w) :
    (∀ hostname, (probesOf hostname (landings ++ past)).Pairwise fun later earlier =>
      Expired expiry later.observedAt earlier.observedAt) ∧
    ∀ all hosts p i hostname r, q = .scanning all hosts p →
      p.scans[i]? = some ⟨hostname, .looking⟩ →
      (probesOf hostname (landings ++ past)).head? = some r →
      ∃ q' w', q.step? s w (.scan (.look i)) = some (q', w') ∧
        (∃ later result v, Inquiry.Lands s q' w' later (.answered result) v) ∧
        ∀ later result v, Inquiry.Lands s q' w' later (.answered result) v →
          ∃ r', result.report.hosts.get? hostname = some r' ∧
            (Expired expiry (clock w.ticks) r.observedAt ∧ probesOf hostname later = [r'] ∨
              ¬ Expired expiry (clock w.ticks) r.observedAt ∧ probesOf hostname later = [] ∧
                r' = .observed (HostName.normalize domain) hostname r.checks r.observedAt) := by
  have hasked : (Inquiry.asked domain expected).Tidy (HostName.normalize domain) := rfl
  obtain ⟨htidy, hrecalls⟩ := h.recalls hclock hs hasked (hchecks.recalls hclock hcaches)
  refine ⟨hrecalls.spaced, ?_⟩
  rintro all hosts p i hostname r rfl hi hlatest
  obtain ⟨hdomain, hd⟩ := htidy
  obtain ⟨⟨p', w'⟩, hstep⟩ :=
    Option.isSome_iff_exists.mp (Probing.isSome_look? (s := s) (w := w) hi)
  have hprobing := Probing.step_of_step? hstep
  refine ⟨.scanning all hosts p', w', ?_, Inquiry.Lands.exists_answer s _ w',
    fun later result v hlater => ?_⟩
  · rw [Inquiry.step?, hstep]
    rfl
  · have hends : Inquiry.Ends hostname result _ _ :=
      hlater.fated ⟨hd.step hprobing, Probing.fate_look hd hi hprobing⟩
    rw [hs.clock_eq, hdomain] at hends
    generalize probesOf hostname later = rs at hends ⊢
    rcases Probing.reused_look hclock hd hrecalls hi hlatest (HostName.normalize domain) with
      ⟨hexpired, hknown⟩ | ⟨hfresh, hknown⟩
    · rw [hknown] at hends
      cases hends with
      | probed hget => exact ⟨_, hget, .inl ⟨hexpired, rfl⟩⟩
    · rw [hknown] at hends
      cases hends with
      | reused hget => exact ⟨_, hget, .inr ⟨hfresh, rfl, rfl⟩⟩

theorem shared_host_is_probed_again_after_eight_seconds :
    ∃ (s : Services) (first : HostReport), s.clock.Steady ∧ s.StampedBy s.clock ∧
      ∀ seconds, ∃ w₁ p w q' w',
        Checks s.clock { cache := some ⟨.inMemory, .ofSeconds seconds⟩ }
          [("mx.example", first)] w₁ ∧
        Inquiry.Lands s (.asked "B.example." []) w₁ []
          (.scanning ["mx.example"] ["mx.example"] p) w ∧
        (Inquiry.scanning ["mx.example"] ["mx.example"] p).step? s w (.scan (.look 0)) =
          some (q', w') ∧
        ∀ later result v, Inquiry.Lands s q' w' later (.answered result) v →
          ∃ r, result.report.hosts.get? "mx.example" = some r ∧
            (seconds < 8 ∧ probesOf "mx.example" later = [r] ∨
              8 ≤ seconds ∧ probesOf "mx.example" later = [] ∧
                r = .observed "b.example" "mx.example" first.checks first.observedAt) := by
  have hearliest : Instant.firstSecond ≤ 0 := by decide
  have hlatest : 400 ≤ Instant.lastSecond := by decide
  -- The clock shows four seconds more with each reading, up to the hundredth.
  let clock : Clock := fun n => ⟨4 * (min n 100 : Nat), 0, by omega, by omega, by decide, nofun⟩
  have hreading (n : Nat) : (clock n).nanoseconds = 4000000000 * (min n 100 : Nat) := by
    simp only [clock, Instant.nanoseconds]
    omega
  have hclock : clock.Steady := by
    refine ⟨fun _ => Nat.zero_lt_succ _, fun n => ?_⟩
    rw [hreading, hreading]
    omega
  let s : Services :=
    { clock
      mx := fun _ => (.ok ["mx.example"], [])
      probe := fun domain hostname now => (.observed domain hostname [.pass hostname] now, [])
      delay := fun _ => 0
      policy := fun _ _ => (none, [])
      concurrency := 1 }
  have hs : s.StampedBy clock := ⟨rfl, fun _ _ _ => rfl⟩
  let first : HostReport := .observed "a.example" "mx.example" [.pass "mx.example"] (clock 1)
  refine ⟨s, first, hclock, hs, fun seconds => ?_⟩
  let w₀ : World := { cache := some ⟨.inMemory, .ofSeconds seconds⟩ }
  have hcaches : Caches (.ofSeconds seconds) .empty w₀ := ⟨0, 0, rfl⟩
  obtain ⟨answer, w₁, hanswer, hticks⟩ : ∃ answer w₁,
      (Inquiry.asked "a.example" []).follow s w₀ [.prepare, .scan .enter, .scan (.look 0),
        .scan (.land 0), .scan (.keep 0), .conclude] =
          some ([("mx.example", first)], .answered answer, w₁) ∧ w₁.ticks = 3 := ⟨_, _, rfl, rfl⟩
  obtain ⟨p, w, hlook, hi, hticks'⟩ : ∃ p w,
      (Inquiry.asked "B.example." []).follow s w₁ [.prepare, .scan .enter] =
        some ([], .scanning ["mx.example"] ["mx.example"] p, w) ∧
      p.scans[0]? = some ⟨"mx.example", .looking⟩ ∧ w.ticks = w₁.ticks := ⟨_, _, rfl, rfl, rfl⟩
  have hchecks : Checks clock w₀ [("mx.example", first)] w₁ :=
    Checks.none.more hs (Inquiry.lands_of_follow hanswer)
  have hlands := Inquiry.lands_of_follow hlook
  have hexpired : Expired (.ofSeconds seconds) (clock w.ticks) first.observedAt ↔ seconds < 8 := by
    have hlongest : 8000000000 ≤ Scans.Cache.longestExpiry := by decide
    have hfirst : first.observedAt = clock 1 := rfl
    simp only [hticks', hticks, hfirst, Expired, hreading, Duration.ofSeconds]
    omega
  obtain ⟨q', w', hstep, -, hends⟩ :=
    (probed_again_iff_expired hclock hcaches hchecks hs hlands).2 _ _ p 0
    "mx.example" first rfl hi rfl
  refine ⟨w₁, p, w, q', w', hchecks, hlands, hstep, fun later result v hlater => ?_⟩
  obtain ⟨r, hget, hend⟩ := hends later result v hlater
  rw [hexpired, Nat.not_lt] at hend
  exact ⟨r, hget, hend⟩

end DomainCheck

theorem Program.Machine.services_stampedBy (m : Program.Machine) (s : Settings)
    (roots : Tls.Roots) :
    (m.services s roots).StampedBy (m.services s roots).clock :=
  ⟨rfl, fun _ _ _ => rfl⟩

end MailAudit
