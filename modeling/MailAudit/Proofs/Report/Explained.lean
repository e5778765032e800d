import MailAudit.Proofs.Check
import MailAudit.Proofs.Report.Severity
import MailAudit.Revalidation.Pass

namespace MailAudit

inductive HostReport.Built : HostReport → Prop
  | observed (domain hostname : String) {checks : List Check} (h : ∀ c ∈ checks, c.Built)
      (observedAt : Instant) :
      Built (.observed domain hostname checks observedAt)

inductive PolicyReport.Built : PolicyReport → Prop
  | ofChecks (mode : MtaSts.Mode) (patterns : List String) (maxAge : UInt64)
      (recordId : Option String) {checks : List Check} (h : ∀ c ∈ checks, c.Built) :
        Built (.ofChecks mode patterns maxAge recordId checks)

inductive DomainReport.Built : DomainReport → Prop
  | withoutMailService (domain message : String) (now : Instant) :
      Built (.withoutMailService domain message now)
  | withoutMatchingHosts (domain : String) (mxHosts : List String) (message : String)
      (now : Instant) :
      Built (.withoutMatchingHosts domain mxHosts message now)
  | ofChecks (domain : String) (mxHosts preferredHosts : List String) {hosts : Keyed HostReport}
      {policy : Option PolicyReport} (hhosts : ∀ host ∈ hosts.values, host.Built)
      (hpolicy : ∀ p, policy = some p → p.Built) (now : Instant) :
      Built (.ofChecks domain mxHosts preferredHosts hosts policy now)

theorem HostReport.Built.success_iff_silent {host : HostReport} (h : host.Built) :
    host.verdict = .success ↔ host.messages = [] := by
  cases h with
  | observed domain hostname h observedAt =>
      exact Check.worst_eq_success_iff_silent fun c hc => (h c hc).success_iff_silent

theorem PolicyReport.Built.result_built {p : PolicyReport} (h : p.Built) : p.result.Built := by
  cases h with
  | ofChecks mode patterns maxAge recordId h => exact .group _ h

theorem Check.Built.part_le {c part : Check} {name : String} (h : c.Built)
    (hpart : c.part? name = some part) :
    part.verdict ≤ c.verdict := by
  have hmem : part ∈ c.checks := List.mem_of_find?_eq_some hpart
  cases h with
  | group name h => exact Verdict.le_worst (List.mem_map_of_mem hmem)
  | _ => cases hmem

theorem PolicyReport.Built.part_eq_success {p : PolicyReport} {part : Check} {name : String}
    (h : p.Built) (hpart : p.check? name = some part) (hsilent : p.result.allMessages = []) :
    part.verdict = .success := by
  have hresult : p.result.verdict = .success := h.result_built.success_iff_silent.mpr hsilent
  have hle : part.verdict ≤ p.result.verdict := h.result_built.part_le hpart
  exact Verdict.le_antisymm (hresult ▸ hle) (Verdict.success_le _)

namespace DomainReport

variable {r : DomainReport} {hosts : Keyed HostReport} {policy : Option PolicyReport}

theorem worst_decisive_eq_success (hhosts : ∀ host ∈ hosts.values, host.Built)
    (hpolicy : ∀ p, policy = some p → p.Built) (hquiet : ∀ host ∈ hosts.values, host.messages = [])
    (hsilent : ∀ p, policy = some p → p.result.allMessages = []) :
    Verdict.worst (decisive hosts policy) = .success := by
  have hle : Verdict.worst (decisive hosts policy) ≤ .success := by
    refine worst_decisive_le_iff.mpr ⟨fun host hhost => ?_, fun part hpart => ?_⟩
    · rw [(hhosts host hhost).success_iff_silent.mpr (hquiet host hhost)]
      exact Verdict.le_refl _
    · obtain ⟨p, hp, hpart⟩ := Option.bind_eq_some_iff.mp hpart
      rw [(hpolicy p hp).part_eq_success hpart (hsilent p hp)]
      exact Verdict.le_refl _
  exact Verdict.le_antisymm hle (Verdict.success_le _)

theorem messages_eq_nil_iff :
    r.messages = [] ↔ (∀ host ∈ r.hosts.values, host.messages = []) ∧
      ∀ p, r.policy = some p → p.result.allMessages = [] := by
  simp only [messages, List.append_eq_nil_iff, List.flatMap_eq_nil_iff, Option.mem_toList]

theorem Built.messages_ne_nil (h : r.Built) (hfails : r.verdict ≠ .success)
    (hmessage : r.message = none) :
    r.messages ≠ [] := by
  intro hsilent
  obtain ⟨hquiet, hpolicy⟩ := messages_eq_nil_iff.mp hsilent
  cases h with
  | withoutMailService => cases hmessage
  | withoutMatchingHosts => cases hmessage
  | @ofChecks domain mxHosts preferredHosts hosts policy hhosts hpolicies now =>
      by_cases hempty : hosts.isEmpty = true
      · rw [DomainReport.ofChecks, if_pos hempty] at hmessage
        cases hmessage
      · rw [ofChecks_of_nonempty (Bool.eq_false_iff.mpr hempty)] at hfails hquiet hpolicy
        exact hfails (worst_decisive_eq_success hhosts hpolicies hquiet hpolicy)

/-- Whatever is reported of a domain says why it failed. -/
theorem failures_are_explained (h : r.Built) (hfails : r.verdict ≠ .success) :
    (∃ message, r.message = some message ∧ Revalidation.Reporter.detail r = message) ∨
      let messages :=
        r.hosts.entries.flatMap (fun (_, host) => host.checks.flatMap Check.allMessages) ++
        (r.policy.map fun p => p.result.allMessages).getD []
      r.message = none ∧ r.hosts.entries.Pairwise (·.1 < ·.1) ∧ messages ≠ [] ∧
        Revalidation.Reporter.detail r = String.intercalate "; " messages := by
  cases hmessage : r.message with
  | some message =>
      refine .inl ⟨message, rfl, ?_⟩
      rw [Revalidation.Reporter.detail, hmessage]
  | none =>
      have hsays : r.messages ≠ [] := h.messages_ne_nil hfails hmessage
      have hmessages : r.messages =
          r.hosts.entries.flatMap (fun (_, host) => host.checks.flatMap Check.allMessages) ++
          (r.policy.map fun p => p.result.allMessages).getD [] := by
        rw [messages, Keyed.values, List.flatMap_map]
        cases r.policy with
        | none => rfl
        | some p => exact congrArg _ (List.flatMap_singleton _ p)
      refine .inr ⟨rfl, r.hosts.ascending, hmessages ▸ hsays, ?_⟩
      rw [Revalidation.Reporter.detail, hmessage, ← hmessages]
      exact if_neg fun hempty => hsays (List.isEmpty_iff.mp hempty)

theorem nested_failure_is_explained :
    let greeting : Check :=
      .group Check.connectivity [.pass "port", .group "greeting" [.warn "banner" "Slow banner"]]
    let host : HostReport :=
      .observed "a.test" "mx.a.test" [greeting, .group Check.starttls []] default
    let consistency : Check := .fail Check.mtaStsConsistency "mx.a.test is not in the policy"
    let policy : PolicyReport :=
      .ofChecks .enforce ["mx.b.test"] 86400 none [.warn Check.mtaStsText "No record", consistency]
    let hosts : Keyed HostReport := .ofList [("mx.a.test", host)]
    let r : DomainReport :=
      .ofChecks "a.test" ["mx.a.test"] ["mx.a.test"] hosts (some policy) default
    r.Built ∧ r.verdict ≠ .success ∧
      Revalidation.Reporter.detail r =
        "Slow banner; No record; mx.a.test is not in the policy" := by
  intro greeting host consistency policy hosts r
  have hhost : host.Built := by
    refine .observed _ _ ?_ default
    simp only [List.forall_mem_cons, List.not_mem_nil, false_imp_iff, implies_true, and_true]
    exact ⟨.group _ (by simp [Check.Built.pass, Check.Built.warn, Check.Built.group]),
      .group _ (by simp)⟩
  have hpolicy : policy.Built :=
    .ofChecks _ _ _ _ (by simp [consistency, Check.Built.warn, Check.Built.fail])
  have hr : r.Built := by
    refine .ofChecks _ _ _ (fun h hmem => ?_) (fun p hp => ?_) default
    · rw [List.mem_singleton.mp hmem]
      exact hhost
    · cases hp
      exact hpolicy
  have hfails : r.verdict ≠ .success := by decide
  refine ⟨hr, hfails, ?_⟩
  rcases failures_are_explained hr hfails with ⟨message, hmessage, -⟩ | ⟨-, -, -, hdetail⟩
  · cases hmessage
  · exact hdetail.trans (by decide)

end DomainReport

end MailAudit
