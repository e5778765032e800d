import MailAudit.Proofs.DomainCheck.Effects
import MailAudit.Proofs.Report.Untimed

namespace MailAudit

section

variable {α : Type} [BEq α] [LawfulBEq α]

theorem idxOf_filter_lt_idxOf_filter (keep : α → Bool) {l : List α} {a b : α} (ha : keep a = true)
    (hb : keep b = true) (h : (l.filter keep).idxOf a < (l.filter keep).idxOf b) :
    l.idxOf a < l.idxOf b := by
  induction l with
  | nil => exact absurd h (Nat.lt_irrefl _)
  | cons x rest ih =>
      by_cases hx : keep x = true
      · rw [List.filter_cons_of_pos hx] at h
        simp only [List.idxOf_cons] at h ⊢
        by_cases hxa : (x == a) = true
        · by_cases hxb : (x == b) = true
          · simp [hxa, hxb] at h
          · simp [hxa, hxb]
        · by_cases hxb : (x == b) = true
          · simp [hxb] at h
          · simp only [hxa, hxb, cond_false, Nat.add_lt_add_iff_right] at h ⊢
            exact ih h
      · rw [List.filter_cons_of_neg hx] at h
        have hxa : (x == a) = false := beq_false_of_ne fun heq => hx (heq ▸ ha)
        have hxb : (x == b) = false := beq_false_of_ne fun heq => hx (heq ▸ hb)
        simp only [List.idxOf_cons, hxa, hxb, cond_false, Nat.add_lt_add_iff_right]
        exact ih h

theorem pairwise_idxOf_eraseDups (l : List α) :
    l.eraseDups.Pairwise fun a b => l.idxOf a < l.idxOf b := by
  induction hn : l.length using Nat.strong_induction_on generalizing l with
  | _ n ih =>
      cases l with
      | nil => exact List.Pairwise.nil
      | cons x rest =>
          have hlt : (rest.filter fun y => !y == x).length < n := by
            have hle := List.length_filter_le (fun y => !y == x) rest
            simp only [List.length_cons] at hn
            omega
          have hother {y : α} (hy : y ∈ (rest.filter fun y => !y == x).eraseDups) :
              (!y == x) = true :=
            (List.mem_filter.mp (List.mem_eraseDups.mp hy)).2
          rw [List.eraseDups_cons]
          refine List.pairwise_cons.mpr ⟨?_, ?_⟩
          · intro y hy
            have hne : (x == y) = false := by simpa [BEq.comm] using hother hy
            simp [List.idxOf_cons, hne]
          · refine (ih _ hlt _ rfl).imp_of_mem fun {a b} ha hb hab => ?_
            have hrest :=
              idxOf_filter_lt_idxOf_filter (fun y => !y == x) (hother ha) (hother hb) hab
            have hxa : (x == a) = false := by simpa [BEq.comm] using hother ha
            have hxb : (x == b) = false := by simpa [BEq.comm] using hother hb
            simpa [List.idxOf_cons, hxa, hxb] using hrest

theorem nodup_eraseDups (l : List α) : l.eraseDups.Nodup := by
  refine (pairwise_idxOf_eraseDups l).imp ?_
  rintro a b hlt rfl
  exact Nat.lt_irrefl _ hlt

end

namespace DomainCheck

variable {s : Services} {canonical : String → HostReport} {domain : String} {expected : List String}

def mxNames (s : Services) (domain : String) : List String :=
  match (s.mx domain).1 with
  | .ok hosts => HostName.distinct hosts
  | .error _ => []

def chosen (s : Services) (domain : String) (expected : List String) : List String :=
  preferred expected (mxNames s domain)

theorem nodup_mxNames (s : Services) (domain : String) : (mxNames s domain).Nodup := by
  rw [mxNames]
  split
  · exact nodup_eraseDups _
  · exact List.nodup_nil

theorem nodup_chosen (s : Services) (domain : String) (expected : List String) :
    (chosen s domain expected).Nodup := by
  rw [chosen, preferred]
  split
  · exact nodup_mxNames s domain
  · exact (nodup_mxNames s domain).filter _

def reportsBy (canonical : String → HostReport) (hosts : List String) : Keyed HostReport :=
  .ofList (hosts.map fun h => (h, canonical h))

def verdictBy (s : Services) (canonical : String → HostReport) (domain : String)
    (expected : List String) : DomainReport :=
  if (mxNames s domain).isEmpty then .withoutMailService domain noMxRecords default
  else if (chosen s domain expected).isEmpty then
    .withoutMatchingHosts domain (mxNames s domain) noMatchingHosts default
  else
    let reports := reportsBy canonical (chosen s domain expected)
    .ofChecks domain (mxNames s domain) (chosen s domain expected) reports
      (s.policy domain reports).1 default

def lookupCounters (s : Services) (domain : String) : Multiset Counter :=
  match (s.mx domain).1 with
  | .ok _ => 0
  | .error _ => {.failure .mxLookup}

def openingCounters (s : Services) (domain : String) : Multiset Counter :=
  (if (mxNames s domain).isEmpty then {.failure .noMxRecords} else 0) + lookupCounters s domain +
    ↑(Note.counters (s.mx domain).2)

theorem mxHosts_spec (s : Services) (domain : String) (w : World) :
    (mxHosts s domain w).1 = mxNames s domain ∧
      (mxHosts s domain w).2.raised =
        lookupCounters s domain + ↑(Note.counters (s.mx domain).2) + w.raised ∧
      (mxHosts s domain w).2.cache = w.cache ∧ (mxHosts s domain w).2.ticks = w.ticks := by
  rcases hmx : s.mx domain with ⟨answer, notes⟩
  simp only [mxHosts, mxNames, lookupCounters, hmx]
  cases answer with
  | ok hosts => exact ⟨rfl, by simp, rfl, rfl⟩
  | error e =>
      refine ⟨rfl, ?_, rfl, rfl⟩
      rw [World.raised_note, World.raised_note]
      exact (Multiset.add_assoc _ _ _).symm

inductive Opened (s : Services) (domain : String) (expected : List String) : Opening → Prop
  | noHosts (now : Instant) (hmx : (mxNames s domain).isEmpty = true) :
      Opened s domain expected (.settled (.withoutMailService domain noMxRecords now))
  | noMatch (now : Instant) (hmx : (mxNames s domain).isEmpty = false)
      (hchosen : (chosen s domain expected).isEmpty = true) :
      Opened s domain expected
        (.settled (.withoutMatchingHosts domain (mxNames s domain) noMatchingHosts now))
  | hosts (hmx : (mxNames s domain).isEmpty = false)
      (hchosen : (chosen s domain expected).isEmpty = false) :
      Opened s domain expected (.hosts (mxNames s domain) (chosen s domain expected))

theorem prepare_spec (s : Services) (domain : String) (expected : List String) (w : World) :
    Opened s domain expected (prepare s domain expected w).1 ∧
      (prepare s domain expected w).2.raised = openingCounters s domain + w.raised ∧
      (prepare s domain expected w).2.cache = w.cache ∧
      w.ticks ≤ (prepare s domain expected w).2.ticks := by
  obtain ⟨hnames, hraised, hcache, hticks⟩ := mxHosts_spec s domain w
  simp only [prepare, hnames, openingCounters]
  split
  · rename_i hmx
    refine ⟨.noHosts _ hmx, ?_, hcache, ?_⟩
    · simp [hraised, Multiset.add_assoc]
    · simp [hticks]
  · rename_i hmx
    have hmx : (mxNames s domain).isEmpty = false := Bool.eq_false_iff.mpr hmx
    split
    · rename_i hchosen
      refine ⟨.noMatch _ hmx hchosen, ?_, hcache, ?_⟩
      · simp [hraised]
      · simp [hticks]
    · rename_i hchosen
      refine ⟨.hosts hmx (Bool.eq_false_iff.mpr hchosen), ?_, hcache, hticks.ge⟩
      simp [hraised]

theorem world_of_prepare {all hosts : List String} {w v : World}
    (h : prepare s domain expected w = (.hosts all hosts, v)) : v = (mxHosts s domain w).2 := by
  simp only [prepare] at h
  split at h
  · cases h
  · split at h
    · cases h
    · cases h
      rfl

theorem Opened.chosen_eq_nil {report : DomainReport}
    (h : Opened s domain expected (.settled report)) :
    chosen s domain expected = [] := by
  cases h with
  | noHosts now hmx =>
      rw [chosen, List.isEmpty_iff.mp hmx, preferred]
      split <;> rfl
  | noMatch now hmx hchosen => exact List.isEmpty_iff.mp hchosen

theorem Opened.mxHosts_eq {report : DomainReport} (h : Opened s domain expected (.settled report)) :
    report.mxHosts = mxNames s domain := by
  cases h with
  | noHosts now hmx => exact (List.isEmpty_iff.mp hmx).symm
  | noMatch now hmx hchosen => rfl

theorem Opened.preferredHosts_eq {report : DomainReport}
    (h : Opened s domain expected (.settled report)) : report.preferredHosts = [] := by
  cases h <;> rfl

theorem Opened.untimed_eq {report : DomainReport}
    (h : Opened s domain expected (.settled report)) (canonical : String → HostReport) :
    report.untimed = verdictBy s canonical domain expected := by
  cases h with
  | noHosts now hmx =>
      rw [verdictBy, hmx]
      rfl
  | noMatch now hmx hchosen =>
      rw [verdictBy, hmx, hchosen]
      rfl

theorem Opened.hosts_eq {all chosenHosts : List String}
    (h : Opened s domain expected (.hosts all chosenHosts)) :
    all = mxNames s domain ∧ chosenHosts = chosen s domain expected ∧
      (mxNames s domain).isEmpty = false ∧ (chosen s domain expected).isEmpty = false := by
  cases h with
  | hosts hmx hchosen => exact ⟨rfl, rfl, hmx, hchosen⟩

theorem conclude_spec (s : Services) (hosts preferred : List String) (p : Probing) (w : World) :
    (∃ now, (conclude s hosts preferred p w).1.report =
        .ofChecks p.domain hosts preferred (.ofList p.reports)
          (s.policy p.domain (.ofList p.reports)).1 now) ∧
      (conclude s hosts preferred p w).1.probes = p.probes ∧
      (conclude s hosts preferred p w).2.raised =
        ↑(Note.counters (s.policy p.domain (.ofList p.reports)).2) + w.raised ∧
      (conclude s hosts preferred p w).2.cache = w.cache ∧
      (conclude s hosts preferred p w).2.ticks = w.ticks + 1 :=
  ⟨⟨_, rfl⟩, rfl, by simp [conclude], rfl, rfl⟩

theorem finish_spec (result : Result) (w : World) :
    (finish result w).raised = {.milestone .domainChecked} + w.raised ∧
      (finish result w).cache = w.cache ∧ (finish result w).ticks = w.ticks :=
  ⟨by simp [finish], rfl, rfl⟩

theorem map_untimed_ofList {hosts : List String} (hnodup : hosts.Nodup)
    {reports : List (String × HostReport)} (hkeys : (reports.map Prod.fst).Perm hosts)
    (hreports : ∀ e ∈ reports, e.2.untimed = canonical e.1) :
    (Keyed.ofList reports).map HostReport.untimed = reportsBy canonical hosts := by
  have hmap : (reports.map fun e => (e.1, HostReport.untimed e.2)) =
      (reports.map Prod.fst).map fun h => (h, canonical h) := by
    rw [List.map_map]
    refine List.map_congr_left fun e he => ?_
    simp only [Function.comp_apply, hreports e he]
  have hnodup' : (((reports.map Prod.fst).map fun h => (h, canonical h)).map Prod.fst).Nodup := by
    rw [List.map_map]
    simpa [Function.comp_def] using hkeys.nodup_iff.mpr hnodup
  rw [Keyed.map_ofList, hmap, reportsBy]
  exact Keyed.ofList_perm (hkeys.map _) hnodup'

end DomainCheck

end MailAudit
