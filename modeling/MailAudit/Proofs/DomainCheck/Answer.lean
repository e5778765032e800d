import MailAudit.Program.Initialization
import MailAudit.Proofs.DomainCheck.Scheduling
import MailAudit.Proofs.Report.Severity

namespace MailAudit

namespace HostName

structure FirstSeen (names hosts : List String) : Prop where
  mem : ∀ host, host ∈ hosts ↔ host ≠ "" ∧ ∃ name ∈ names, normalize name = host
  order : hosts.Pairwise fun a b => (names.map normalize).idxOf a < (names.map normalize).idxOf b

theorem firstSeen_distinct (names : List String) : FirstSeen names (distinct names) where
  mem host := by
    simp only [distinct, List.mem_eraseDups, List.mem_filter, List.mem_map, bne_iff_ne]
    exact And.comm
  order := by
    refine (pairwise_idxOf_eraseDups _).imp_of_mem fun {a b} ha hb hab => ?_
    have hnonempty {c : String} (hc : c ∈ distinct names) : (c != "") = true :=
      (List.mem_filter.mp (List.mem_eraseDups.mp hc)).2
    exact idxOf_filter_lt_idxOf_filter (· != "") (hnonempty ha) (hnonempty hb) hab

end HostName

def Services.Labels (s : Services) : Prop :=
  ∀ domain hostname now, (s.probe domain hostname now).1.hostname = hostname ∧
    (s.probe domain hostname now).1.domain = domain

namespace DomainCheck

variable {s : Services} {domain : String} {expected : List String} {w v : World}

inductive Listed : Except Dns.LookupError (List String) → List String → Prop
  | answered {names hosts : List String} (h : HostName.FirstSeen names hosts) :
      Listed (.ok names) hosts
  | failed (e : Dns.LookupError) : Listed (.error e) []

theorem listed_mxNames (s : Services) (domain : String) :
    Listed (s.mx domain).1 (mxNames s domain) := by
  rw [mxNames]
  split
  · rename_i names hnames
    rw [hnames]
    exact .answered (HostName.firstSeen_distinct names)
  · rename_i e he
    rw [he]
    exact .failed e

theorem chosen_eq (s : Services) (domain : String) (expected : List String) :
    chosen s domain expected =
      if expected = [] then mxNames s domain
      else (mxNames s domain).filter (MtaSts.Pattern.anyAdmits expected) := by
  simp only [chosen, preferred, List.isEmpty_iff]

theorem Opened.exists_eq {report : DomainReport} (h : Opened s domain expected (.settled report)) :
    ∃ message now, report = .withoutMatchingHosts domain (mxNames s domain) message now := by
  cases h with
  | noHosts now hmx =>
      rw [List.isEmpty_iff.mp hmx]
      exact ⟨noMxRecords, now, rfl⟩
  | noMatch now hmx hchosen => exact ⟨noMatchingHosts, now, rfl⟩

def MadeOut (domain hostname : String) (r : HostReport) : Prop :=
  r.hostname = hostname ∧ r.domain = domain

namespace Probing

theorem provides_madeOut (hs : s.Labels) (p : Probing) (w : World) (m : Move) :
    Provides s (MadeOut p.domain) p w m where
  reused := by
    intro i hostname r _ _ hr
    obtain ⟨cache, stored, -, -, rfl⟩ := exists_of_reused hr
    exact ⟨rfl, rfl⟩
  probed := by
    intro i hostname endsAt _ _
    rw [(probed_spec s p.domain hostname w).1]
    exact hs p.domain hostname _

end Probing

namespace Inquiry

theorem step?_withPolicy (policy : String → Keyed HostReport → Option PolicyReport × List Note)
    (q : Inquiry) (w : World) {m : Move} (hm : m ≠ .conclude) :
    q.step? { s with policy } w m = q.step? s w m := by
  cases q with
  | asked domain expected => cases m <;> rfl
  | scanning hosts preferred p =>
      cases m with
      | prepare => rfl
      | scan m => cases m <;> rfl
      | conclude => exact absurd rfl hm
  | answered result => cases m <;> rfl

end Inquiry

section

variable {s' : Services} (hmx : s'.mx = s.mx) (hclock : s'.clock = s.clock) (domain : String)
  (expected : List String) (w : World) (cache : Option Scans.Cache)

include hmx

theorem mxHosts_congr :
    mxHosts s' domain { w with cache } =
      ((mxHosts s domain w).1, { (mxHosts s domain w).2 with cache }) := by
  rcases hanswer : s.mx domain with ⟨answer, notes⟩
  simp only [mxHosts, hmx, hanswer]
  cases answer with
  | ok names => rfl
  | error e => rfl

include hclock

theorem prepare_congr :
    prepare s' domain expected { w with cache } =
      ((prepare s domain expected w).1, { (prepare s domain expected w).2 with cache }) := by
  simp only [prepare, mxHosts_congr hmx, hclock]
  split
  · rfl
  · split
    · rfl
    · rfl

theorem Inquiry.prepare_congr :
    prepare s' domain expected { w with cache } =
      ((prepare s domain expected w).1, { (prepare s domain expected w).2 with cache }) := by
  rcases hopening : DomainCheck.prepare s (HostName.normalize domain) expected w with ⟨opening, u⟩
  simp only [prepare, DomainCheck.prepare_congr hmx hclock, hopening]
  cases opening with
  | settled report => rfl
  | hosts all preferred => rfl

end

structure Reports (s : Services) (domain : String) (expected : List String)
    (result : Result) : Prop where
  name : result.report.domain = HostName.normalize domain
  mxHosts : Listed (s.mx (HostName.normalize domain)).1 result.report.mxHosts
  preferredHosts : result.report.preferredHosts =
    if expected = [] then result.report.mxHosts
    else result.report.mxHosts.filter (MtaSts.Pattern.anyAdmits expected)
  keys : result.report.hosts.keys.Perm result.report.preferredHosts
  madeOut : ∀ e ∈ result.report.hosts.entries, MadeOut (HostName.normalize domain) e.1 e.2
  message : result.report.message.isSome = true ↔ result.report.hosts.isEmpty = true

/-- An answer without hosts is a failure, and comes at once: neither is the cache touched, nor would
other probes or policies have made a difference. -/
structure AnswersAtOnce (s : Services) (domain : String) (expected : List String) (w : World)
    (ms : List Inquiry.Move) (result : Result) (v : World) : Prop where
  verdict : result.report.verdict = .failure
  probes : result.probes = []
  policyHosts : result.policyHosts = none
  policy : result.report.policy = none
  cache : v.cache = w.cache
  alike : ∀ (s' : Services) (cache : Option Scans.Cache), s'.mx = s.mx → s'.clock = s.clock →
    Inquiry.Run s' (.asked domain expected) { w with cache } ms (.answered result) { v with cache }

/-- The policy is looked at once, with the reports on all hosts, and before that it makes no
difference. -/
structure AsksPolicyOnce (s : Services) (domain : String) (expected : List String) (w : World)
    (ms : List Inquiry.Move) (result : Result) (v : World) : Prop where
  policyHosts : result.policyHosts = some result.report.hosts.keys
  policy : result.report.policy = (s.policy (HostName.normalize domain) result.report.hosts).1
  last : ∃ ms' p u, ms = ms' ++ [.conclude] ∧ .conclude ∉ ms' ∧
    (∀ policy, Inquiry.Run { s with policy } (.asked domain expected) w ms'
      (.scanning result.report.mxHosts result.report.preferredHosts p) u) ∧
    v = finish result
      ((u.note (s.policy (HostName.normalize domain) result.report.hosts).2).now s.clock).2

/-- A domain with reports is as bad as the worst of its hosts and of the comparison with its
policy. -/
def IsWorst (report : DomainReport) : Prop :=
  ∀ v, report.verdict ≤ v ↔ (∀ host ∈ report.hosts.values, host.verdict ≤ v) ∧
    ∀ c, (report.policy.bind fun p => p.check? Check.mtaStsConsistency) = some c → c.verdict ≤ v

namespace Inquiry

variable {ms : List Move} {q r : Inquiry} {m : Move}

def Standing (s : Services) (domain : String) (expected : List String) (w : World) (ms : List Move)
    (v : World) : Inquiry → Prop
  | asked name wanted => ms = [] ∧ name = domain ∧ wanted = expected ∧ v = w
  | scanning all hosts p =>
      all = mxNames s (HostName.normalize domain) ∧
        hosts = chosen s (HostName.normalize domain) expected ∧ hosts ≠ [] ∧
        p.domain = HostName.normalize domain ∧
        Probing.Places (MadeOut (HostName.normalize domain)) hosts p ∧ .conclude ∉ ms ∧
        ∀ policy, Run { s with policy } (.asked domain expected) w ms (.scanning all hosts p) v
  | answered result =>
      Reports s domain expected result ∧
        (result.report.hosts.isEmpty = true → AnswersAtOnce s domain expected w ms result v) ∧
        (result.report.hosts.isEmpty = false →
          AsksPolicyOnce s domain expected w ms result v ∧ IsWorst result.report)

theorem reports_of_opened {report : DomainReport}
    (h : Opened s (HostName.normalize domain) expected (.settled report)) :
    Reports s domain expected { report } ∧ report.hosts.isEmpty = true ∧ report.verdict = .failure ∧
      report.policy = none := by
  have hlisted := listed_mxNames s (HostName.normalize domain)
  have hchosen := h.chosen_eq_nil
  rw [chosen_eq] at hchosen
  obtain ⟨message, now, rfl⟩ := h.exists_eq
  refine ⟨⟨rfl, hlisted, hchosen.symm, .refl _, ?_, ⟨fun _ => rfl, fun _ => rfl⟩⟩, rfl, rfl, rfl⟩
  exact fun e he => (List.not_mem_nil he).elim

theorem standing_settle {result : Result} {u : World}
    (hprepare : prepare s domain expected w = (.answered result, finish result u))
    (hopened : Opened s (HostName.normalize domain) expected (.settled result.report))
    (hresult : result = { report := result.report }) (hcache : u.cache = w.cache) :
    Standing s domain expected w [.prepare] (finish result u) (.answered result) := by
  obtain ⟨hreports, hempty, hverdict, hpolicy⟩ := reports_of_opened hopened
  rw [← hresult] at hreports
  refine ⟨hreports, fun _ => ?_, fun hsome => ?_⟩
  · refine ⟨hverdict, ?_, ?_, hpolicy, hcache, ?_⟩
    · rw [hresult]
    · rw [hresult]
    · intro s' cache hmx hclock
      refine @Run.tail s' _ _ [] _ _ .prepare _ _ .refl ?_ (by simp)
      simp only [step?, prepare_congr hmx hclock, hprepare]
  · rw [hempty] at hsome
    cases hsome

theorem standing_embark
    (hchosen : (chosen s (HostName.normalize domain) expected).isEmpty = false) {u : World}
    (hprepare : prepare s domain expected w =
      (.scanning (mxNames s (HostName.normalize domain))
        (chosen s (HostName.normalize domain) expected)
        { domain := HostName.normalize domain
          pending := chosen s (HostName.normalize domain) expected }, u)) :
    Standing s domain expected w [.prepare] u
      (.scanning (mxNames s (HostName.normalize domain))
        (chosen s (HostName.normalize domain) expected)
        { domain := HostName.normalize domain
          pending := chosen s (HostName.normalize domain) expected }) := by
  refine ⟨rfl, rfl, ?_, rfl, Probing.places_pending _ _ _, by simp, ?_⟩
  · exact fun hnil => by rw [hnil] at hchosen; cases hchosen
  · intro policy
    refine @Run.tail { s with policy } _ _ [] _ _ .prepare _ _ .refl ?_ (by simp)
    rw [step?_withPolicy policy _ _ (by simp)]
    simp only [step?, hprepare]

theorem standing_scan (hs : s.Labels) {all hosts : List String} {p p' : Probing} {m : Probing.Move}
    {u : World} (h : Standing s domain expected w ms v (.scanning all hosts p))
    (hstep : p.step? s v m = some (p', u)) (hsettled : m = .enter → p.Settled) :
    Standing s domain expected w (ms ++ [.scan m]) u (.scanning all hosts p') := by
  obtain ⟨hall, hhosts, hne, hdomain, hplaces, hconclude, hrun⟩ := h
  have hrelated := Probing.step_of_step? hstep
  have hprovides := Probing.provides_madeOut hs p v m
  rw [hdomain] at hprovides
  refine ⟨hall, hhosts, hne, (Probing.domain_step hrelated).trans hdomain,
    hplaces.step hprovides hrelated, by simp [hconclude], ?_⟩
  intro policy
  refine (hrun policy).tail (m := .scan m) ?_ ?_
  · rw [step?_withPolicy policy _ _ (by simp)]
    simp [step?, hstep]
  · rintro ⟨⟩
    exact hsettled rfl

theorem standing_conclude {all hosts : List String} {p : Probing}
    (h : Standing s domain expected w ms v (.scanning all hosts p)) (hdone : p.isDone = true) :
    Standing s domain expected w (ms ++ [.conclude])
      (finish (DomainCheck.conclude s all hosts p v).1 (DomainCheck.conclude s all hosts p v).2)
      (.answered (DomainCheck.conclude s all hosts p v).1) := by
  obtain ⟨hall, hhosts, hne, hdomain, hplaces, hconclude, hrun⟩ := h
  have hperm := hplaces.keys_ofList_perm (hhosts ▸ nodup_chosen _ _ _) hdone
  have hsome : (Keyed.ofList p.reports).isEmpty = false := by
    rw [← Keyed.isEmpty_keys, hperm.isEmpty_eq]
    exact List.isEmpty_eq_false_iff.mpr hne
  obtain ⟨⟨now, hreport⟩, -⟩ := conclude_spec s all hosts p v
  rw [DomainReport.ofChecks_of_nonempty hsome] at hreport
  refine ⟨⟨?_, ?_, ?_, ?_, ?_, ?_⟩, ?_, ?_⟩
  · rw [hreport]
    exact hdomain
  · rw [hreport, hall]
    exact listed_mxNames s _
  · rw [hreport, hall, hhosts]
    exact chosen_eq s _ expected
  · rw [hreport]
    exact hperm
  · rw [hreport]
    intro e he
    exact hplaces.reports e (Keyed.mem_entries_ofList he)
  · rw [hreport, hsome]
    exact Iff.rfl
  · intro hempty
    rw [hreport, hsome] at hempty
    cases hempty
  · intro _
    refine ⟨⟨?_, ?_, ms, p, v, rfl, hconclude, ?_, ?_⟩, ?_⟩
    · rw [hreport]
      rfl
    · rw [hreport, hdomain]
    · rw [hreport]
      exact hrun
    · rw [hreport, ← hdomain]
      rfl
    · rw [hreport]
      exact fun u => DomainReport.worst_decisive_le_iff

theorem standing_step (hs : s.Labels) (h : Standing s domain expected w ms v q) {u : World}
    (hstep : q.step? s v m = some (r, u)) (hsettled : m = .scan .enter → q.Settled) :
    Standing s domain expected w (ms ++ [m]) u r := by
  have hrelated := step_of_step? hstep
  cases hrelated with
  | settle hopened hraised hcache hticks =>
      obtain ⟨rfl, rfl, rfl, rfl⟩ := h
      exact standing_settle (Option.some.inj hstep) hopened rfl hcache
  | embark hsome hchosen =>
      obtain ⟨rfl, rfl, rfl, rfl⟩ := h
      exact standing_embark hchosen (Option.some.inj hstep)
  | scan hscan =>
      refine standing_scan hs h hscan ?_
      rintro rfl
      exact hsettled rfl
  | conclude hdone => exact standing_conclude h hdone

theorem Run.standing (hs : s.Labels) (h : Run s (.asked domain expected) w ms q v) :
    Standing s domain expected w ms v q := by
  induction h with
  | refl => exact ⟨rfl, rfl, rfl, rfl⟩
  | tail _ hstep hsettled ih => exact standing_step hs ih hstep hsettled

end Inquiry

end DomainCheck

theorem Program.Machine.services_label (m : Program.Machine) (s : Settings) (roots : Tls.Roots) :
    (m.services s roots).Labels := by
  intro domain hostname now
  exact ⟨rfl, rfl⟩

end MailAudit
