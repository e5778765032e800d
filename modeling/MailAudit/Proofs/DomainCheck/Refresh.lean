import MailAudit.Program.Initialization
import MailAudit.Proofs.DomainCheck.Upkeep
import MailAudit.Proofs.Scans.Durable
import MailAudit.Proofs.Smtp.Course

/-! A check leaves behind a store that can be read for every host that it has looked at, whatever
there was before: an entry that was fresh is as it was, and in the place of any other is the report
of the one probe that was made. Nothing else in the store changes. -/

namespace MailAudit

def HostReport.Judged (r : HostReport) : Prop := r.verdict = .worst (r.checks.map (·.verdict))

def Services.Judges (s : Services) : Prop :=
  ∀ domain hostname now, (s.probe domain hostname now).1.Judged

/-- No report of a probe is nested so deep that a store of this kind does not give it back. -/
def Services.Shallow (s : Services) (kind : Scans.Backing.Kind) : Prop :=
  kind = .table →
    ∀ domain hostname now, (s.probe domain hostname now).1.toJson.depth ≤ Json.nestingLimit

namespace DomainCheck

open Scans (Backing)

variable {s : Services} {expiry : Duration} {before : Backing} {first : Nat} {hosts : List String}
  {hostname : String} {past : Landings}

namespace Probing

/-- How a host stands in a check that began with the reading `first` of the clock, with the reports
of its probes: it is not looked at, it waits, or it has been looked up in what was stored before. -/
inductive Standing (s : Services) (expiry : Duration) (before : Backing) (first : Nat)
    (hostname : String) (p : Probing) (w : World) : List HostReport → Prop
  | outside (h : hostname ∉ p.pending ++ (p.scans.map (·.hostname) ++ p.reports.map Prod.fst)) :
      Standing s expiry before first hostname p w []
  | pending (h : hostname ∈ p.pending) : Standing s expiry before first hostname p w []
  | looking (h : ⟨hostname, .looking⟩ ∈ p.scans) : Standing s expiry before first hostname p w []
  | looked {t : Nat} {known : Option HostReport} {rs : List HostReport} (hfirst : first ≤ t)
      (hlast : t < w.ticks)
      (hsees : Sees expiry (s.clock t) p.domain hostname (before.get hostname) known)
      (hfate : p.Fate hostname known rs) : Standing s expiry before first hostname p w rs

variable {p q : Probing} {w v : World} {m : Move}

theorem ticks_lt_of_look {i : Nat} (hcache : w.cache ≠ none) (h : Step s p w (.look i) q v) :
    w.ticks < v.ticks := by
  obtain ⟨cache, hcache⟩ := Option.ne_none_iff_exists'.mp hcache
  cases h with
  | reuse hi hr =>
      rw [(cached_spec s _ _ w).2.2.2, hcache]
      exact Nat.lt_succ_self _
  | start hi hr =>
      rw [(cached_spec s _ _ w).2.2.2, hcache]
      exact Nat.lt_succ_self _

theorem sees_before (hd : p.Distinct) (hu : Upkeep expiry before.kind before.stored? past p.scans w)
    {i : Nat} (hi : p.scans[i]? = some ⟨hostname, .looking⟩) (hnone : probesOf hostname past = []) :
    w.cache ≠ none ∧ Sees expiry (s.clock w.ticks) p.domain hostname (before.get hostname)
      ((find s.clock hostname w).reused p.domain hostname) := by
  obtain ⟨stored, hstores, hlatest⟩ := hu.stored
  have hkeeping (r : HostReport) : ⟨hostname, .keeping r⟩ ∉ p.scans := by
    intro hc
    cases hd.eq_of_hostname_eq hc (List.mem_of_getElem? hi) rfl
  have hstored : stored hostname = before.stored? hostname := by
    rw [hlatest hostname hkeeping, latest, hnone]
    rfl
  have hsees := hstores.sees s.clock p.domain hostname
  rw [hstored, ← Backing.get_eq_read] at hsees
  obtain ⟨store, hcache, -⟩ := hstores
  exact ⟨hcache ▸ Option.some_ne_none _, hsees⟩

theorem standing_of_pending (hd : p.Distinct) (h : Step s p w m q v) (hp : hostname ∈ p.pending) :
    probesOf hostname (p.landed s w m) = [] ∧ Standing s expiry before first hostname q v [] := by
  have hscans : hostname ∉ p.scans.map (·.hostname) := fun hmem =>
    List.disjoint_of_nodup_append hd hp (List.mem_append_left _ hmem)
  refine ⟨probesOf_landed_of_notMem hscans w m, ?_⟩
  cases h with
  | enter hpending hroom =>
      rw [hpending] at hp
      rcases List.mem_cons.mp hp with rfl | hp
      · exact .looking (List.mem_append_right _ List.mem_cons_self)
      · exact .pending hp
  | _ => exact .pending hp

theorem standing_of_looking (hd : p.Distinct)
    (hu : Upkeep expiry before.kind before.stored? past p.scans w) (hfirst : first ≤ w.ticks)
    (hnone : probesOf hostname past = []) (h : Step s p w m q v)
    (hc : ⟨hostname, .looking⟩ ∈ p.scans) :
    probesOf hostname (p.landed s w m) = [] ∧ Standing s expiry before first hostname q v [] := by
  rcases remains_or_moves hd h hc with ⟨hstays, hlanded⟩ | ⟨i, hi, rfl⟩
  · exact ⟨hlanded, .looking hstays⟩
  · obtain ⟨hcache, hsees⟩ := sees_before (s := s) hd hu hi hnone
    rw [← domain_step h] at hsees
    have hfate := fate_look hd hi h
    rw [← domain_step h] at hfate
    exact ⟨rfl, .looked hfirst (ticks_lt_of_look hcache h) hsees hfate⟩

theorem Standing.step (hd : p.Distinct)
    (hu : Upkeep expiry before.kind before.stored? past p.scans w) (hfirst : first ≤ w.ticks)
    (h : Step s p w m q v)
    (hs : Standing s expiry before first hostname p w (probesOf hostname past)) :
    Standing s expiry before first hostname q v (probesOf hostname (p.landed s w m ++ past)) := by
  rw [probesOf_append]
  generalize hrs : probesOf hostname past = rs at hs ⊢
  cases hs with
  | outside hnowhere =>
      have hscans : hostname ∉ p.scans.map (·.hostname) := fun hmem =>
        hnowhere (List.mem_append_right _ (List.mem_append_left _ hmem))
      rw [probesOf_landed_of_notMem hscans]
      exact .outside fun hmem => hnowhere ((perm_step h).mem_iff.mp hmem)
  | pending hp =>
      obtain ⟨hlanded, hnext⟩ := standing_of_pending hd h hp
      rw [hlanded]
      exact hnext
  | looking hc =>
      obtain ⟨hlanded, hnext⟩ := standing_of_looking hd hu hfirst hrs h hc
      rw [hlanded]
      exact hnext
  | looked hfirst' hlast hsees hfate =>
      rw [← domain_step h] at hsees
      exact .looked hfirst' (hlast.trans_le (ticks_step h)) hsees (hfate.step hd h)

theorem provides_judged (hjudges : s.Judges) (p : Probing) (w : World) (m : Move) :
    Provides s (fun _ r => r.Judged) p w m where
  reused i hostname r _ _ hr := by
    obtain ⟨cache, stored, -, -, rfl⟩ := exists_of_reused hr
    rfl
  probed i hostname endsAt _ _ := hjudges _ _ _

end Probing

def Made (s : Services) (domain : String) (first last : Nat) (landings : Landings) : Prop :=
  ∀ e ∈ landings, ∃ t, first ≤ t ∧ t < last ∧ e.2 = (s.probe domain e.1 (s.clock t)).1

theorem Made.mono {domain : String} {last last' : Nat} (hm : Made s domain first last past)
    (hle : last ≤ last') : Made s domain first last' past := by
  intro e he
  obtain ⟨t, hfirst, hlast, heq⟩ := hm e he
  exact ⟨t, hfirst, hlast.trans_le hle, heq⟩

theorem Made.step {p q : Probing} {w v : World} {m : Probing.Move}
    (hm : Made s p.domain first w.ticks past) (hfirst : first ≤ w.ticks)
    (h : Probing.Step s p w m q v) :
    Made s q.domain first v.ticks (p.landed s w m ++ past) := by
  intro e he
  rw [Probing.domain_step h]
  rcases List.mem_append.mp he with he | he
  · cases h with
    | land hi =>
        rw [Probing.landed_land hi, List.mem_singleton] at he
        subst he
        refine ⟨w.ticks, hfirst, ?_, rfl⟩
        rw [(probed_spec s _ _ w).2.2.2]
        exact Nat.lt_succ_self _
    | _ => cases he
  · exact hm.mono (Probing.ticks_step h) e he

structure Tends (s : Services) (expiry : Duration) (before : Backing) (first : Nat)
    (hosts : List String) (past : Landings) (p : Probing) (w : World) : Prop where
  places : Probing.Places (fun _ r => r.Judged) hosts p
  upkeep : Upkeep expiry before.kind before.stored? past p.scans w
  since : first ≤ w.ticks
  standing :
    ∀ hostname, Probing.Standing s expiry before first hostname p w (probesOf hostname past)
  made : Made s p.domain first w.ticks past

namespace Tends

variable {p q : Probing} {w v : World} {m : Probing.Move}

theorem distinct (ht : Tends s expiry before first hosts past p w) (hnodup : hosts.Nodup) :
    p.Distinct :=
  ht.places.perm.nodup_iff.mpr hnodup

theorem step (hjudges : s.Judges) (hnodup : hosts.Nodup)
    (ht : Tends s expiry before first hosts past p w) (h : Probing.Step s p w m q v) :
    Tends s expiry before first hosts (p.landed s w m ++ past) q v where
  places := ht.places.step (Probing.provides_judged hjudges p w m) h
  upkeep := Probing.upkeep_step (ht.distinct hnodup) ht.upkeep h
  since := ht.since.trans (Probing.ticks_step h)
  standing hostname := (ht.standing hostname).step (ht.distinct hnodup) ht.upkeep ht.since h
  made := ht.made.step ht.since h

theorem start {domain : String} (hstores : Stores expiry before.kind before.stored? w)
    (hfirst : first ≤ w.ticks) :
    Tends s expiry before first hosts [] { domain, pending := hosts } w where
  places := Probing.places_pending _ domain hosts
  upkeep := upkeep_nil hstores
  since := hfirst
  standing hostname := by
    by_cases hmem : hostname ∈ hosts
    · exact .pending hmem
    · refine .outside ?_
      rw [List.map_nil, List.map_nil, List.append_nil, List.append_nil]
      exact hmem
  made e he := absurd he List.not_mem_nil

end Tends

def FreshAt (expiry : Duration) (now : Instant) (b : Backing) (hostname : String) : Prop :=
  ∃ r, b.get hostname = .ok (some r) ∧ Scans.Cache.isFresh expiry now r = true

/-- What a check has done to the entry of a host that it looked up at some time: a fresh one is as
it was, and in the place of any other is the report of the one probe. Either can be read, and is
what the answer says. -/
structure Refreshed (expiry : Duration) (now : Instant) (before after : Backing)
    (landings : Landings) (result : Result) (hostname : String) : Prop where
  updated : FreshAt expiry now before hostname ∧ probesOf hostname landings = [] ∧
      after.stored? hostname = before.stored? hostname ∨
    ¬FreshAt expiry now before hostname ∧ ∃ r, probesOf hostname landings = [r] ∧
      after.stored? hostname = some (before.kind.entryOf r)
  readable : ∃ stored reported, after.get hostname = .ok (some stored) ∧
    result.report.hosts.get? hostname = some reported ∧ reported.checks = stored.checks ∧
    reported.observedAt = stored.observedAt

structure Refreshes (s : Services) (domain : String) (expiry : Duration) (hosts : List String)
    (before after : Backing) (first last : Nat) (landings : Landings) (result : Result) : Prop where
  preferred : result.report.preferredHosts = hosts
  kind : after.kind = before.kind
  made : Made s domain first last landings
  refreshed : ∀ hostname ∈ hosts, ∃ t, first ≤ t ∧ t < last ∧
    Refreshed expiry (s.clock t) before after landings result hostname
  others : ∀ hostname, hostname ∉ hosts → probesOf hostname landings = [] ∧
    after.stored? hostname = before.stored? hostname
  judged : ∀ hostname reported, result.report.hosts.get? hostname = some reported → reported.Judged

section

variable {after : Backing} {now : Instant} {domain : String} {last : Nat} {landings : Landings}
  {result : Result} {known : Option HostReport}

theorem Sees.freshAt_iff {b : Backing}
    (h : Sees expiry now domain hostname (b.get hostname) known) :
    FreshAt expiry now b hostname ↔ known ≠ none := by
  cases h with
  | fresh hread hfresh => exact iff_of_true ⟨_, hread, hfresh⟩ (Option.some_ne_none _)
  | nothing hstale =>
      refine iff_of_false ?_ fun h => h rfl
      rintro ⟨r, hread, hfresh⟩
      rw [hstale r hread] at hfresh
      cases hfresh

theorem Made.read_entryOf {kind : Backing.Kind} (hm : Made s domain first last landings)
    (hmissing : kind ≠ .missing) (hshallow : s.Shallow kind) {r : HostReport}
    (hr : r ∈ probesOf hostname landings) : kind.read (some (kind.entryOf r)) = .ok (some r) := by
  obtain ⟨e, he, rfl⟩ := List.mem_map.mp hr
  obtain ⟨t, -, -, heq⟩ := hm e (List.mem_of_mem_filter he)
  refine Backing.Kind.read_entryOf hmissing fun htable => ?_
  rw [heq]
  exact hshallow htable _ _ _

theorem refreshed_of_ends (hkind : after.kind = before.kind)
    (hstored : after.stored? hostname = latest before.kind before.stored? landings hostname)
    (hread : ∀ r ∈ probesOf hostname landings,
      before.kind.read (some (before.kind.entryOf r)) = .ok (some r))
    (hsees : Sees expiry now domain hostname (before.get hostname) known)
    (hends : Inquiry.Ends hostname result known (probesOf hostname landings)) :
    Refreshed expiry now before after landings result hostname := by
  have hfresh := hsees.freshAt_iff
  have hget : after.get hostname = before.kind.read (after.stored? hostname) := by
    rw [Backing.get_eq_read, hkind]
  rw [latest] at hstored
  generalize hrs : probesOf hostname landings = rs at hstored hread hends
  cases hends with
  | reused hanswer =>
      have hsame : after.stored? hostname = before.stored? hostname := hstored
      refine ⟨.inl ⟨hfresh.mpr (Option.some_ne_none _), hrs, hsame⟩, ?_⟩
      rw [hsame, ← Backing.get_eq_read] at hget
      cases hsees with
      | fresh hfound => exact ⟨_, _, hget.trans hfound, hanswer, rfl, rfl⟩
  | probed hanswer =>
      have hnew : after.stored? hostname = some (before.kind.entryOf _) := hstored
      refine ⟨.inr ⟨fun h => hfresh.mp h rfl, _, hrs, hnew⟩, _, _, hget.trans ?_, hanswer, rfl, rfl⟩
      rw [hnew]
      exact hread _ List.mem_cons_self

namespace Refreshed

variable (h : Refreshed expiry now before after landings result hostname)

include h

theorem kept (hfresh : FreshAt expiry now before hostname) :
    probesOf hostname landings = [] ∧ after.stored? hostname = before.stored? hostname := by
  rcases h.updated with ⟨-, hkept⟩ | ⟨hstale, -⟩
  · exact hkept
  · exact absurd hfresh hstale

theorem replaced (hstale : ¬ FreshAt expiry now before hostname) :
    ∃ r, probesOf hostname landings = [r] ∧
      after.stored? hostname = some (before.kind.entryOf r) := by
  rcases h.updated with ⟨hfresh, -⟩ | ⟨-, hnew⟩
  · exact absurd hfresh hstale
  · exact hnew

theorem get_eq (hfresh : FreshAt expiry now before hostname) (hkind : after.kind = before.kind) :
    after.get hostname = before.get hostname := by
  rw [Backing.get_eq_read, hkind, (h.kept hfresh).2, ← Backing.get_eq_read]

theorem exists_reported {stored : HostReport} (hget : after.get hostname = .ok (some stored))
    (hjudged : ∀ hostname reported, result.report.hosts.get? hostname = some reported →
      reported.Judged) :
    ∃ reported, result.report.hosts.get? hostname = some reported ∧
      reported.verdict = .worst (stored.checks.map (·.verdict)) := by
  obtain ⟨stored', reported, hstored, hreported, hchecks, -⟩ := h.readable
  cases hget.symm.trans hstored
  exact ⟨reported, hreported, hchecks ▸ hjudged hostname reported hreported⟩

end Refreshed

end

theorem Probing.Standing.of_isDone {p : Probing} {w : World} {rs : List HostReport}
    (hs : p.Standing s expiry before first hostname w rs) (hdone : p.isDone = true) :
    hostname ∉ p.reports.map Prod.fst ∧ rs = [] ∨
      hostname ∈ p.reports.map Prod.fst ∧ ∃ t known, first ≤ t ∧ t < w.ticks ∧
        Sees expiry (s.clock t) p.domain hostname (before.get hostname) known ∧
        p.Fate hostname known rs := by
  obtain ⟨hpending, hscans⟩ := isDone_iff.mp hdone
  cases hs with
  | outside hnowhere =>
      exact .inl
        ⟨fun hmem => hnowhere (List.mem_append_right _ (List.mem_append_right _ hmem)), rfl⟩
  | pending hp =>
      rw [hpending] at hp
      cases hp
  | looking hc =>
      rw [hscans] at hc
      cases hc
  | @looked t known rs hfirst hlast hsees hfate =>
      obtain ⟨r, he, -⟩ := hfate.exists_reported hdone
      exact .inr ⟨List.mem_map_of_mem he, t, known, hfirst, hlast, hsees, hfate⟩

namespace Tends

variable {p : Probing} {w : World} {landings : Landings}

theorem stores_of_isDone (ht : Tends s expiry before first hosts landings p w)
    (hdone : p.isDone = true) :
    Stores expiry before.kind (latest before.kind before.stored? landings) w := by
  have hupkeep := ht.upkeep
  rw [(Probing.isDone_iff.mp hdone).2] at hupkeep
  exact hupkeep.stores

theorem looked_of_isDone (ht : Tends s expiry before first hosts landings p w)
    (hdone : p.isDone = true) :
    (hostname ∉ hosts → probesOf hostname landings = []) ∧
      (hostname ∈ hosts → ∃ t known, first ≤ t ∧ t < w.ticks ∧
        Sees expiry (s.clock t) p.domain hostname (before.get hostname) known ∧
        p.Fate hostname known (probesOf hostname landings)) := by
  rw [← (ht.places.keys_of_isDone hdone).mem_iff]
  rcases (ht.standing hostname).of_isDone hdone with ⟨hnot, hnone⟩ | ⟨hmem, hlooked⟩
  · exact ⟨fun _ => hnone, fun hmem => absurd hmem hnot⟩
  · exact ⟨fun hnot => absurd hmem hnot, fun _ => hlooked⟩

theorem refreshes (ht : Tends s expiry before first hosts landings p w)
    (hshallow : s.Shallow before.kind) (hnodup : hosts.Nodup) (hdone : p.isDone = true)
    (all : List String) :
    ∃ after, (conclude s all hosts p w).2.cache = some ⟨after, expiry⟩ ∧
      Refreshes s p.domain expiry hosts before after.backing first
        (conclude s all hosts p w).2.ticks landings
        (conclude s all hosts p w).1 := by
  obtain ⟨⟨now, hreport⟩, -, -, hcache, hticks⟩ := conclude_spec s all hosts p w
  have hstores := ht.stores_of_isDone hdone
  have hmissing := hstores.kind_ne_missing
  obtain ⟨after, hafter, -, -, hkind, hstored⟩ := hstores
  refine ⟨after, hcache.trans hafter, ?_⟩
  rw [hticks]
  constructor
  case preferred => rw [hreport, DomainReport.preferredHosts_ofChecks]
  case kind => exact hkind
  case made => exact ht.made.mono (Nat.le_succ _)
  case refreshed =>
    intro hostname hmem
    obtain ⟨t, known, hfirst, hlast, hsees, hfate⟩ := (ht.looked_of_isDone hdone).2 hmem
    exact ⟨t, hfirst, hlast.trans (Nat.lt_succ_self _),
      refreshed_of_ends hkind (congrFun hstored hostname)
      (fun r => ht.made.read_entryOf hmissing hshallow) hsees
      (Inquiry.ends_conclude (ht.distinct hnodup) hfate hdone)⟩
  case others =>
    intro hostname hnot
    have hnone := (ht.looked_of_isDone hdone).1 hnot
    refine ⟨hnone, ?_⟩
    rw [hstored, latest, hnone]
    rfl
  case judged =>
    intro hostname reported hget
    rw [hreport, DomainReport.get?_hosts_ofChecks] at hget
    exact ht.places.reports _ (Keyed.mem_entries_ofList (Keyed.get?_eq_some_iff.mp hget))

end Tends

namespace Inquiry

variable {q r : Inquiry} {w v : World} {m : Move} {domain : String} {expected : List String}

def Refreshing (s : Services) (expiry : Duration) (before : Backing) (first : Nat) (domain : String)
    (expected : List String) (past : Landings) (w : World) : Inquiry → Prop
  | asked name wanted => HostName.normalize name = domain ∧ wanted = expected ∧ past = [] ∧
      first ≤ w.ticks ∧ Stores expiry before.kind before.stored? w
  | scanning _ hosts p => p.domain = domain ∧ hosts = chosen s domain expected ∧
      Tends s expiry before first hosts past p w
  | answered result => ∃ after, w.cache = some ⟨after, expiry⟩ ∧
      Refreshes s domain expiry
        (chosen s domain expected) before after.backing first w.ticks past result

theorem refreshing_settle {report : DomainReport}
    (hopened : Opened s domain expected (.settled report))
    (hstores : Stores expiry before.kind before.stored? w) (hcache : v.cache = w.cache) :
    Refreshing s expiry before first domain expected [] v (.answered { report }) := by
  obtain ⟨after, hafter, -, -, hkind, hstored⟩ := hstores
  refine ⟨after, hcache.trans hafter, ?_⟩
  rw [hopened.chosen_eq_nil]
  have hnothing : report.preferredHosts = [] ∧ report.hosts = .empty := by
    cases hopened <;> exact ⟨rfl, rfl⟩
  constructor
  case preferred => exact hnothing.1
  case kind => exact hkind
  case made => exact fun _ he => absurd he List.not_mem_nil
  case refreshed => exact fun _ hmem => absurd hmem List.not_mem_nil
  case others => exact fun _ _ => ⟨rfl, by rw [hstored]⟩
  case judged =>
    intro hostname reported hget
    rw [hnothing.2] at hget
    cases hget

theorem refreshing_step (hjudges : s.Judges) (hshallow : s.Shallow before.kind)
    (h : Step s q w m r v) (hq : q.Refreshing s expiry before first domain expected past w) :
    r.Refreshing s expiry before first domain expected (q.landed s w m ++ past) v := by
  have hnodup := nodup_chosen s domain expected
  cases h with
  | settle hopened hraised hcache hticks =>
      obtain ⟨rfl, rfl, rfl, -, hstores⟩ := hq
      exact refreshing_settle hopened hstores ((finish_spec _ _).2.1.trans hcache)
  | embark hsome hchosen =>
      obtain ⟨rfl, rfl, rfl, hfirst, hstores⟩ := hq
      obtain ⟨-, -, hcache, hticks⟩ := mxHosts_spec s (HostName.normalize _) w
      exact ⟨rfl, rfl, .start (hstores.of_cache_eq hcache) (hfirst.trans hticks.ge)⟩
  | scan hstep =>
      obtain ⟨rfl, rfl, ht⟩ := hq
      have hprobing := Probing.step_of_step? hstep
      exact ⟨Probing.domain_step hprobing, rfl, ht.step hjudges hnodup hprobing⟩
  | conclude hdone =>
      obtain ⟨rfl, rfl, ht⟩ := hq
      exact ht.refreshes hshallow hnodup hdone _

theorem Lands.refreshing (hjudges : s.Judges) (hshallow : s.Shallow before.kind) {q₀ : Inquiry}
    {w₀ : World} {landings : Landings} (h : Lands s q₀ w₀ landings q w)
    (hq : q₀.Refreshing s expiry before first domain expected [] w₀) :
    q.Refreshing s expiry before first domain expected landings w := by
  induction h with
  | refl => exact hq
  | tail _ hstep ih => exact refreshing_step hjudges hshallow (step_of_step? hstep) ih

end Inquiry

/-- Whatever is in a store that refuses nothing, a check of a domain over it leaves a report that
can be read on every host that it prefers: the fresh one that was there, or else that of the one
probe that is made. It probes no other host and changes nothing else in the store, and no host comes
out better or worse than the worst of its checks. -/
theorem check_leaves_store_refreshed (s : Services) (domain : String) (expected : List String)
    (store : Scans.Store) (expiry : Duration) (w : World) (hcache : w.cache = some ⟨store, expiry⟩)
    (hreads : ∀ n, store.readRefusal n = none) (htakes : ∀ n, store.takes n = true)
    (hjudges : s.Judges) (hshallow : s.Shallow store.backing.kind) :
    (∃ landings, Inquiry.Lands s (.asked domain expected) w landings
      (.answered (run s domain expected w).1) (run s domain expected w).2) ∧
    ∀ landings result v, Inquiry.Lands s (.asked domain expected) w landings (.answered result) v →
      ∃ after, v.cache = some ⟨after, expiry⟩ ∧
        Refreshes s (HostName.normalize domain) expiry
          (chosen s (HostName.normalize domain) expected)
          store.backing after.backing w.ticks v.ticks landings result := by
  obtain ⟨ms, hrun⟩ := Inquiry.exists_run s domain expected w
  refine ⟨hrun.exists_lands, fun landings result v hlands => ?_⟩
  have hasked : (Inquiry.asked domain expected).Refreshing s expiry store.backing w.ticks
      (HostName.normalize domain) expected [] w :=
    ⟨rfl, rfl, rfl, Nat.le_refl _, store, hcache, hreads, htakes, rfl, rfl⟩
  exact hlands.refreshing hjudges hshallow hasked

theorem damaged_row_is_replaced_and_fresh_row_is_kept :
    let fresh : HostReport := ⟨"b.test", "mx2.test", .success, [.warn "tls-version" "old"],
      ⟨90, 0, by decide, by decide, by decide, by decide⟩⟩
    let s : Services :=
      { clock := fun _ => ⟨100, 0, by decide, by decide, by decide, by decide⟩
        mx := fun _ => (.ok ["mx1.test", "mx2.test"], [])
        probe := fun domain hostname now =>
          (.observed domain hostname [.fail "connectivity" "no route"] now, [])
        delay := fun _ => 0
        policy := fun _ _ => (none, [])
        concurrency := 2 }
    let damaged : Scans.Row := ⟨7, "damaged"⟩
    let rows : Keyed Scans.Row :=
      .ofList [("mx1.test", damaged), ("mx2.test", .ofReport fresh), ("other.test", damaged)]
    let store : Scans.Store := { backing := .durable ⟨some rows⟩ }
    ∃ landings result v after,
      Inquiry.Lands s (.asked "A.test" []) { cache := some ⟨store, .ofSeconds 60⟩ } landings
        (.answered result) v ∧
      v.cache = some ⟨after, .ofSeconds 60⟩ ∧
      (∃ r, probesOf "mx1.test" landings = [r] ∧
        after.backing.stored? "mx1.test" = some (.row (.ofReport r))) ∧
      probesOf "mx2.test" landings = [] ∧ after.backing.get "mx2.test" = .ok (some fresh) ∧
      (∃ reported, result.report.hosts.get? "mx2.test" = some reported ∧
        reported.verdict = .warning) ∧
      probesOf "other.test" landings = [] ∧
        after.backing.stored? "other.test" = some (.row damaged) := by
  intro fresh s damaged rows store
  have hrows (key : String) : rows.get? key = [("mx1.test", damaged), ("mx2.test", .ofReport fresh),
      ("other.test", damaged)].lookup key := Keyed.get?_ofList (by simp) key
  have hstored (key : String) : store.backing.stored? key = (rows.get? key).map .row := rfl
  have hread : store.backing.get "mx2.test" = .ok (some fresh) := by
    rw [Backing.get_eq_read, hstored, hrows]
    exact @Backing.Kind.read_entryOf .table nofun fresh fun _ =>
      HostReport.depth_toJson_le_of_flat (by simp [fresh, Check.warn])
  have hunread : store.backing.get "mx1.test" = some <$> damaged.report? :=
    Backing.get_of_row ((hrows _).trans rfl)
  have hdamaged : HostReport.read? damaged.report = none := by decide +kernel
  have hhosts : chosen s (HostName.normalize "A.test") [] = ["mx1.test", "mx2.test"] := by
    decide +kernel
  obtain ⟨⟨landings, hlands⟩, hall⟩ :=
    check_leaves_store_refreshed s "A.test" [] store (.ofSeconds 60)
      { cache := some ⟨store, .ofSeconds 60⟩ } rfl (fun _ => rfl) (fun _ => rfl) (fun _ _ _ => rfl)
      (fun _ _ _ _ =>
        HostReport.depth_toJson_le_of_flat (by simp [s, HostReport.observed, Check.fail]))
  obtain ⟨after, hafter, hrefreshes⟩ := hall _ _ _ hlands
  rw [hhosts] at hrefreshes
  obtain ⟨t₁, -, -, hfirst⟩ := hrefreshes.refreshed "mx1.test" (by simp)
  obtain ⟨t₂, -, -, hsecond⟩ := hrefreshes.refreshed "mx2.test" (by simp)
  obtain ⟨hnone, hsame⟩ := hrefreshes.others "other.test" (by simp)
  have hstale : ¬ FreshAt (.ofSeconds 60) (s.clock t₁) store.backing "mx1.test" := by
    rintro ⟨r, hr, -⟩
    rw [hunread, Scans.Row.report?, hdamaged] at hr
    cases hr
  have hfresh : FreshAt (.ofSeconds 60) (s.clock t₂) store.backing "mx2.test" := ⟨fresh, hread, rfl⟩
  have hget : after.backing.get "mx2.test" = .ok (some fresh) :=
    (hsecond.get_eq hfresh hrefreshes.kind).trans hread
  refine ⟨landings, _, _, after, hlands, hafter, hfirst.replaced hstale, (hsecond.kept hfresh).1,
    hget, hsecond.exists_reported hget hrefreshes.judged, hnone, ?_⟩
  rw [hsame, hstored, hrows]
  rfl

end DomainCheck

namespace Program.Machine

variable (m : Program.Machine) (s : Settings) (roots : Tls.Roots)

theorem services_judge : (m.services s roots).Judges := fun _ _ _ => rfl

theorem services_shallow (kind : Scans.Backing.Kind) : (m.services s roots).Shallow kind :=
  fun _ _ hostname now =>
    HostReport.depth_toJson_le_of_flat (Smtp.Client.course_probe _ _ hostname now.seconds).flat

end Program.Machine

end MailAudit
