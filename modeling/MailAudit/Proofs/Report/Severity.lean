import MailAudit.Proofs.MtaSts.Audit
import MailAudit.Proofs.Verdict
import MailAudit.Report.Domain

/-! A domain fares no better when its hosts fare worse, or when its policy is to be applied more
strictly. The comparison of hosts and policy alone has no such law: a host that begins to fail is no
longer compared. -/

namespace MailAudit

/-- The same hosts under the same keys, and no verdict of the second map is better than in the
first. -/
def NoBetter (hosts hosts' : Keyed HostReport) : Prop :=
  ∀ key,
    Option.Rel (fun host host' => host.hostname = host'.hostname ∧ host.verdict ≤ host'.verdict)
    (hosts.get? key) (hosts'.get? key)

namespace NoBetter

variable {hosts hosts' : Keyed HostReport}

theorem refl (hosts : Keyed HostReport) : NoBetter hosts hosts := by
  intro key
  cases hosts.get? key with
  | none => exact .none
  | some host => exact .some ⟨rfl, Verdict.le_refl _⟩

theorem exists_value (h : NoBetter hosts hosts') {host : HostReport} (hhost : host ∈ hosts.values) :
    ∃ host' ∈ hosts'.values, host.hostname = host'.hostname ∧ host.verdict ≤ host'.verdict := by
  obtain ⟨⟨key, value⟩, hentry, rfl⟩ := List.mem_map.mp hhost
  have hrel := h key
  rw [Keyed.get?_eq_some_iff.mpr hentry] at hrel
  cases hget : hosts'.get? key with
  | none =>
      rw [hget] at hrel
      cases hrel
  | some host' =>
      rw [hget] at hrel
      cases hrel with
      | some hle => exact ⟨host', List.mem_map_of_mem (Keyed.get?_eq_some_iff.mp hget), hle⟩

theorem hostnames_eq (h : NoBetter hosts hosts') :
    hosts.values.map (·.hostname) = hosts'.values.map (·.hostname) := by
  rw [← Keyed.values_map, ← Keyed.values_map]
  refine congrArg Keyed.values (Keyed.ext_get? fun key => ?_)
  have hrel := h key
  rw [Keyed.get?_map, Keyed.get?_map]
  generalize hosts.get? key = host at hrel ⊢
  generalize hosts'.get? key = host' at hrel ⊢
  cases hrel with
  | none => rfl
  | some hle => exact congrArg some hle.1

theorem isEmpty_eq (h : NoBetter hosts hosts') : hosts.isEmpty = hosts'.isEmpty := by
  have hempty := congrArg List.isEmpty h.hostnames_eq
  rwa [List.isEmpty_map, List.isEmpty_map, Keyed.isEmpty_values, Keyed.isEmpty_values] at hempty

end NoBetter

namespace MtaSts.Consistency

variable {hosts hosts' : Keyed HostReport}

theorem working_of_none_failed (h : ∀ host ∈ hosts.values, host.verdict ≠ .failure) :
    working hosts = hosts.values.map (·.hostname) := by
  rw [working, List.filter_eq_self.mpr]
  intro host hhost
  exact bne_iff_ne.mpr (h host hhost)

theorem working_eq_of_noBetter (h : NoBetter hosts hosts')
    (hfailed : ∀ host' ∈ hosts'.values, host'.verdict ≠ .failure) :
    working hosts = working hosts' := by
  have hfirst : ∀ host ∈ hosts.values, host.verdict ≠ .failure := by
    intro host hhost heq
    obtain ⟨host', hhost', -, hle⟩ := h.exists_value hhost
    exact hfailed host' hhost' (Verdict.le_antisymm (Verdict.le_failure _) (heq ▸ hle))
  rw [working_of_none_failed hfirst, working_of_none_failed hfailed, h.hostnames_eq]

end MtaSts.Consistency

abbrev Published := Option (MtaSts.Mode × List String)

inductive Compares (hosts : Keyed HostReport) : Published → Option PolicyReport → Prop
  | unpublished : Compares hosts none none
  | published {mode : MtaSts.Mode} {patterns : List String} {report : PolicyReport}
      (hcheck : report.check? Check.mtaStsConsistency =
        MtaSts.Consistency.check? mode patterns hosts) :
      Compares hosts (some (mode, patterns)) (some report)

inductive NoLaxer : Published → Published → Prop
  | unpublished (policy : Published) : NoLaxer none policy
  | published {mode mode' : MtaSts.Mode} (hmode : mode.penalty ≤ mode'.penalty)
      (patterns : List String) :
      NoLaxer (some (mode, patterns)) (some (mode', patterns))

theorem NoLaxer.refl : (policy : Published) → NoLaxer policy policy
  | none => .unpublished none
  | some (mode, patterns) => .published (Verdict.le_refl mode.penalty) patterns

theorem Compares.of_audit (policy : MtaSts.Policy) (contentType : Option String)
    (answer : Except Dns.LookupError (List String)) (hosts : Keyed HostReport) :
    Compares hosts (some (policy.mode, policy.patterns))
      (some (MtaSts.Audit.report policy contentType answer hosts)) :=
  .published (MtaSts.Audit.check?_report policy contentType answer hosts)

theorem Compares.exists_check? {hosts hosts' : Keyed HostReport} {policy policy' : Published}
    {report report' : Option PolicyReport} (hhosts : NoBetter hosts hosts')
    (hpolicy : NoLaxer policy policy') (hreport : Compares hosts policy report)
    (hreport' : Compares hosts' policy' report')
    (hfailed : ∀ host' ∈ hosts'.values, host'.verdict ≠ .failure) {c : Check}
    (hc : (report.bind fun p => p.check? Check.mtaStsConsistency) = some c) :
    ∃ c', (report'.bind fun p => p.check? Check.mtaStsConsistency) = some c' ∧
    c.verdict ≤ c'.verdict := by
  -- Without failures both maps have the same hosts that work, so that the problems are the same
  -- too.
  cases hreport with
  | unpublished => cases hc
  | @published mode patterns p hcheck =>
      cases hpolicy with
      | published hmode patterns =>
          cases hreport' with
          | published hcheck' =>
              have hworking := MtaSts.Consistency.working_eq_of_noBetter hhosts hfailed
              have hc : MtaSts.Consistency.check? mode patterns hosts' = some c := by
                rw [← MtaSts.Consistency.check?_congr hworking, ← hcheck]
                exact hc
              obtain ⟨c', hc', hle⟩ := MtaSts.Consistency.exists_check?_of_penalty_le hmode hc
              exact ⟨c', hcheck'.trans hc', hle⟩

namespace DomainReport

variable {domain : String} {mxHosts preferredHosts mxHosts' preferredHosts' : List String}
  {hosts hosts' : Keyed HostReport} {policy policy' : Published}
    {report report' : Option PolicyReport}
  {now now' : Instant} {v : Verdict}

theorem worst_decisive_le_iff :
    Verdict.worst (decisive hosts report) ≤ v ↔
      (∀ host ∈ hosts.values, host.verdict ≤ v) ∧
        ∀ c, (report.bind fun p => p.check? Check.mtaStsConsistency) = some c → c.verdict ≤ v := by
  simp only [Verdict.worst_le_iff, decisive, List.forall_mem_append, List.forall_mem_map,
    Option.mem_toList, Option.map_eq_some_iff, forall_exists_index, and_imp,
    forall_apply_eq_imp_iff₂]

theorem ofChecks_of_nonempty (h : hosts.isEmpty = false) :
    ofChecks domain mxHosts preferredHosts hosts report now =
      ⟨domain, .worst (decisive hosts report), none, mxHosts, preferredHosts,
        hosts, report, now⟩ := by
  simp only [ofChecks, h, Bool.false_eq_true, if_false]

theorem get?_hosts_ofChecks (hostname : String) :
    (ofChecks domain mxHosts preferredHosts hosts report now).hosts.get? hostname =
      hosts.get? hostname := by
  by_cases hempty : hosts.isEmpty = true
  · have hnone : hosts.get? hostname = none := by
      rw [Keyed.get?, List.isEmpty_iff.mp hempty]
      rfl
    simp only [ofChecks, hempty, if_true, hnone]
    rfl
  · rw [ofChecks_of_nonempty (Bool.eq_false_iff.mpr hempty)]

theorem mxHosts_ofChecks :
    (ofChecks domain mxHosts preferredHosts hosts report now).mxHosts = mxHosts := by
  simp only [ofChecks]
  split <;> rfl

theorem preferredHosts_ofChecks :
    (ofChecks domain mxHosts preferredHosts hosts report now).preferredHosts = preferredHosts := by
  simp only [ofChecks]
  split <;> rfl

theorem verdict_ofChecks_le_iff :
    (ofChecks domain mxHosts preferredHosts hosts report now).verdict ≤ v ↔
      (hosts.isEmpty = true → v = .failure) ∧ (∀ host ∈ hosts.values, host.verdict ≤ v) ∧
        ∀ c, (report.bind fun p => p.check? Check.mtaStsConsistency) = some c → c.verdict ≤ v := by
  by_cases hempty : hosts.isEmpty = true
  · simp only [ofChecks, hempty, if_true, withoutMailService, true_implies]
    constructor
    · intro h
      have hv : v = .failure := Verdict.le_antisymm (Verdict.le_failure v) h
      exact ⟨hv, fun host _ => hv ▸ Verdict.le_failure _, fun c _ => hv ▸ Verdict.le_failure _⟩
    · rintro ⟨hv, -, -⟩
      exact hv ▸ Verdict.le_refl _
  · have hsome : hosts.isEmpty = false := Bool.eq_false_iff.mpr hempty
    simp only [ofChecks_of_nonempty hsome, hsome, Bool.false_eq_true, false_implies, true_and,
      worst_decisive_le_iff]

theorem verdict_ofChecks_mono (hhosts : NoBetter hosts hosts') (hpolicy : NoLaxer policy policy')
    (hreport : Compares hosts policy report) (hreport' : Compares hosts' policy' report') :
    (ofChecks domain mxHosts preferredHosts hosts report now).verdict ≤
      (ofChecks domain mxHosts' preferredHosts' hosts' report' now').verdict := by
  have hle := verdict_ofChecks_le_iff.mp (Verdict.le_refl
    (ofChecks domain mxHosts' preferredHosts' hosts' report' now').verdict)
  generalize (ofChecks domain mxHosts' preferredHosts' hosts' report' now').verdict = v at hle ⊢
  obtain ⟨hempty, hvalues, hcheck⟩ := hle
  refine verdict_ofChecks_le_iff.mpr ⟨?_, ?_, ?_⟩
  · intro h
    exact hempty (hhosts.isEmpty_eq ▸ h)
  · intro host hhost
    obtain ⟨host', hhost', -, hle⟩ := hhosts.exists_value hhost
    exact Verdict.le_trans hle (hvalues host' hhost')
  · intro c hc
    by_cases hfailed : ∀ host' ∈ hosts'.values, host'.verdict ≠ .failure
    · obtain ⟨c', hc', hle⟩ := hreport.exists_check? hhosts hpolicy hreport' hfailed hc
      exact Verdict.le_trans hle (hcheck c' hc')
    · -- The verdict is a failure already, whatever became of the comparison.
      obtain ⟨host', hhost', hfailure⟩ : ∃ host' ∈ hosts'.values, host'.verdict = .failure := by
        simpa using hfailed
      have hfailure : Verdict.failure ≤ v := hfailure ▸ hvalues host' hhost'
      exact Verdict.le_trans (Verdict.le_failure _) hfailure

/-- What gets worse with a host or is asked more strictly makes no domain look better. -/
theorem verdict_follows_severity (domain : String)
    (mxHosts preferredHosts mxHosts' preferredHosts' : List String) (now now' : Instant) :
    (∀ hosts hosts' : Keyed HostReport, NoBetter hosts hosts' → ∀ policy report report',
      Compares hosts policy report → Compares hosts' policy report' →
        (ofChecks domain mxHosts preferredHosts hosts report now).verdict ≤
          (ofChecks domain mxHosts' preferredHosts' hosts' report' now').verdict) ∧
    (∀ (hosts : Keyed HostReport) (patterns : List String) (idle testing enforced : PolicyReport),
      Compares hosts (some (.none, patterns)) (some idle) →
      Compares hosts (some (.testing, patterns)) (some testing) →
      Compares hosts (some (.enforce, patterns)) (some enforced) →
        (ofChecks domain mxHosts preferredHosts hosts none now).verdict ≤
            (ofChecks domain mxHosts' preferredHosts' hosts (some idle) now').verdict ∧
          (ofChecks domain mxHosts preferredHosts hosts (some idle) now).verdict ≤
            (ofChecks domain mxHosts' preferredHosts' hosts (some testing) now').verdict ∧
          (ofChecks domain mxHosts preferredHosts hosts (some testing) now).verdict ≤
            (ofChecks domain mxHosts' preferredHosts' hosts (some enforced) now').verdict) := by
  constructor
  · intro hosts hosts' hhosts policy report report' hreport hreport'
    exact verdict_ofChecks_mono hhosts (.refl policy) hreport hreport'
  · intro hosts patterns idle testing enforced hidle htesting henforced
    have hhosts := NoBetter.refl hosts
    have hlax : MtaSts.Mode.none.penalty ≤ MtaSts.Mode.testing.penalty := by decide
    have hstrict : MtaSts.Mode.testing.penalty ≤ MtaSts.Mode.enforce.penalty := by decide
    refine ⟨?_, ?_, ?_⟩
    · exact verdict_ofChecks_mono hhosts (.unpublished _) .unpublished hidle
    · exact verdict_ofChecks_mono hhosts (.published hlax patterns) hidle htesting
    · exact verdict_ofChecks_mono hhosts (.published hstrict patterns) htesting henforced

theorem verdict_follows_uncovered_host :
    ∃ (hosts hosts' : Keyed HostReport) (report : MtaSts.Mode → Keyed HostReport → PolicyReport),
      let verdict (hosts : Keyed HostReport) (report : Option PolicyReport) :=
        (ofChecks "example.com" ["mx1.example.com",
          "mx2.example.com"] [] hosts report default).verdict
      NoBetter hosts hosts' ∧
      (verdict hosts (some (report .testing hosts)) = .warning ∧
        verdict hosts' (some (report .testing hosts')) = .failure ∧
        verdict hosts (some (report .testing hosts)) ≤
          verdict hosts' (some (report .testing hosts'))) ∧
      verdict hosts none ≤ verdict hosts (some (report .none hosts)) ∧
      verdict hosts (some (report .none hosts)) ≤ verdict hosts (some (report .testing hosts)) ∧
      verdict hosts (some (report .testing hosts)) ≤
        verdict hosts (some (report .enforce hosts)) := by
  let host (name : String) (verdict : Verdict) : HostReport :=
    ⟨"example.com", name, verdict, [], default⟩
  let hosts (second : Verdict) : Keyed HostReport := .ofList
    [("mx1.example.com", host "mx1.example.com" .success),
      ("mx2.example.com", host "mx2.example.com" second)]
  -- Only the first host is in the policy, so that it suits the hosts once the second one fails.
  let report (mode : MtaSts.Mode) (hosts : Keyed HostReport) : PolicyReport :=
    MtaSts.Audit.report ⟨mode, 86400, ["mx1.example.com"]⟩ none (.ok []) hosts
  have hreport (mode : MtaSts.Mode) (hosts : Keyed HostReport) :
      Compares hosts (some (mode, ["mx1.example.com"])) (some (report mode hosts)) :=
    .of_audit ⟨mode, 86400, ["mx1.example.com"]⟩ none (.ok []) hosts
  have hhosts : NoBetter (hosts .success) (hosts .failure) := by
    intro key
    simp only [hosts, Keyed.ofList, List.foldl_cons, List.foldl_nil, Keyed.get?_insert]
    split
    · exact .some ⟨rfl, by decide⟩
    · split
      · exact .some ⟨rfl, by decide⟩
      · exact .none
  have hlaw := verdict_follows_severity "example.com" ["mx1.example.com", "mx2.example.com"] []
    ["mx1.example.com", "mx2.example.com"] [] default default
  refine ⟨hosts .success, hosts .failure, report, hhosts, ⟨by decide, by decide, ?_⟩, ?_⟩
  · exact hlaw.1 _ _ hhosts _ _ _ (hreport .testing _) (hreport .testing _)
  · exact hlaw.2 _ _ _ _ _ (hreport .none _) (hreport .testing _) (hreport .enforce _)

end DomainReport

end MailAudit
