import MailAudit.MtaSts.Consistency
import MailAudit.Proofs.Keyed
import MailAudit.Proofs.Verdict
import Mathlib.Data.List.Basic

namespace MailAudit.MtaSts

def Mode.penalty : Mode → Verdict
  | .none => .success
  | .testing => .warning
  | .enforce => .failure

namespace Consistency

variable {mode mode' : Mode} {patterns : List String} {hosts hosts' : Keyed HostReport} {c : Check}

theorem check?_none : check? .none patterns hosts = Option.none := by
  simp only [check?]

theorem check?_eq (hmode : mode ≠ .none) (patterns : List String) (hosts : Keyed HostReport) :
    check? mode patterns hosts =
      some (if problems patterns hosts = [] then .pass Check.mtaStsConsistency
        else ⟨Check.mtaStsConsistency, mode.penalty,
          [String.intercalate "; " (problems patterns hosts)], []⟩) := by
  simp only [check?]
  cases problems patterns hosts with
  | nil =>
    cases mode with
    | none => exact absurd rfl hmode
    | testing => rfl
    | enforce => rfl
  | cons problem rest =>
    cases mode with
    | none => exact absurd rfl hmode
    | testing => rfl
    | enforce => rfl

theorem exists_check? (patterns : List String) (hosts : Keyed HostReport) (hmode : mode ≠ .none) :
    ∃ c, check? mode patterns hosts = some c ∧
      c.verdict = if problems patterns hosts = [] then .success else mode.penalty := by
  refine ⟨_, check?_eq hmode patterns hosts, ?_⟩
  split <;> rfl

theorem exists_check?_of_penalty_le (hmode : mode.penalty ≤ mode'.penalty)
    (hcheck : check? mode patterns hosts = some c) :
    ∃ c', check? mode' patterns hosts = some c' ∧ c.verdict ≤ c'.verdict := by
  have hne : mode ≠ .none := by
    rintro rfl
    rw [check?_none] at hcheck
    cases hcheck
  have hne' : mode' ≠ .none := by
    rintro rfl
    cases mode with
    | none => exact hne rfl
    | testing => exact absurd hmode (by decide)
    | enforce => exact absurd hmode (by decide)
  obtain ⟨c₁, hc₁, hverdict⟩ := exists_check? patterns hosts hne
  obtain ⟨c', hc', hverdict'⟩ := exists_check? patterns hosts hne'
  rw [hcheck] at hc₁
  cases hc₁
  refine ⟨c', hc', ?_⟩
  rw [hverdict, hverdict']
  split
  · exact Verdict.le_refl _
  · exact hmode

theorem name_of_check? (hcheck : check? mode patterns hosts = some c) :
    c.name = Check.mtaStsConsistency := by
  by_cases hmode : mode = .none
  · rw [hmode, check?_none] at hcheck
    cases hcheck
  · rw [check?_eq hmode, Option.some.injEq] at hcheck
    rw [← hcheck]
    split <;> rfl

theorem check?_congr (hworking : working hosts = working hosts') :
    check? mode patterns hosts = check? mode patterns hosts' := by
  simp only [check?, problems, hworking]

def Matched (hosts : Keyed HostReport) (pattern : String) : Prop :=
  ∃ host ∈ hosts.values, host.verdict ≠ .failure ∧ Pattern.admits pattern host.hostname = true

def Covered (patterns : List String) (hostname : String) : Prop :=
  ∃ pattern ∈ patterns, Pattern.admits pattern hostname = true

instance (hosts : Keyed HostReport) (pattern : String) : Decidable (Matched hosts pattern) :=
  inferInstanceAs <| Decidable <|
    ∃ host ∈ hosts.values, host.verdict ≠ .failure ∧ Pattern.admits pattern host.hostname = true

instance (patterns : List String) (hostname : String) : Decidable (Covered patterns hostname) :=
  inferInstanceAs <| Decidable <| ∃ pattern ∈ patterns, Pattern.admits pattern hostname = true

def Agrees (patterns : List String) (hosts : Keyed HostReport) : Prop :=
  (∀ pattern ∈ patterns, Matched hosts pattern) ∧
    ∀ host ∈ hosts.values, host.verdict ≠ .failure → Covered patterns host.hostname

def complaints (patterns : List String) (hosts : Keyed HostReport) : List String :=
  (patterns.filter fun pattern => ¬ Matched hosts pattern).map unmatched ++
    (hosts.values.filter fun host => host.verdict ≠ .failure ∧ ¬ Covered patterns host.hostname).map
      fun host => uncovered host.hostname

theorem any_working_iff (pattern : String) :
    (working hosts).any (Pattern.admits pattern) = true ↔ Matched hosts pattern := by
  simp only [working, List.any_map, List.any_filter, List.any_eq_true, Matched,
    Bool.and_eq_true, bne_iff_ne, Function.comp_apply]

theorem anyAdmits_iff (hostname : String) :
    Pattern.anyAdmits patterns hostname = true ↔ Covered patterns hostname :=
  List.any_eq_true

theorem problems_eq_complaints (patterns : List String) (hosts : Keyed HostReport) :
    problems patterns hosts = complaints patterns hosts := by
  have hpatterns : (patterns.filter fun pattern => !(working hosts).any (Pattern.admits pattern)) =
      patterns.filter fun pattern => ¬ Matched hosts pattern := by
    refine List.filter_congr fun pattern _ => ?_
    rw [Bool.eq_iff_iff, decide_eq_true_eq, Bool.not_eq_true', ← any_working_iff, Bool.not_eq_true]
  have hhosts :
      ((working hosts).filter fun host => !Pattern.anyAdmits patterns host).map uncovered =
      (hosts.values.filter fun host => host.verdict ≠ .failure ∧
        ¬ Covered patterns host.hostname).map
        fun host => uncovered host.hostname := by
    rw [working, List.filter_map, List.map_map, List.filter_filter]
    refine congrArg (List.map _) (List.filter_congr fun host _ => ?_)
    rw [Bool.eq_iff_iff, decide_eq_true_eq, Bool.and_eq_true, Function.comp_apply,
      Bool.not_eq_true', ← anyAdmits_iff, Bool.not_eq_true, bne_iff_ne, and_comm]
  rw [problems, complaints, hpatterns, hhosts]

theorem complaints_eq_nil_iff : complaints patterns hosts = [] ↔ Agrees patterns hosts := by
  simp only [complaints, List.append_eq_nil_iff, List.map_eq_nil_iff, List.filter_eq_nil_iff,
    decide_eq_true_eq, not_not, not_and, Agrees]

def SameWorking (hosts hosts' : Keyed HostReport) : Prop :=
  ∀ key host, host.verdict ≠ .failure → (hosts.get? key = some host ↔ hosts'.get? key = some host)

theorem SameWorking.working_eq (h : SameWorking hosts hosts') : working hosts = working hosts' := by
  have hfilter : (hosts.filter fun _ host => host.verdict != .failure) =
      hosts'.filter fun _ host => host.verdict != .failure := by
    refine Keyed.ext_entries fun ⟨key, host⟩ => ?_
    rw [Keyed.filter, Keyed.filter, List.mem_filter, List.mem_filter, bne_iff_ne]
    refine and_congr_left fun hworks => ?_
    rw [← Keyed.get?_eq_some_iff, h key host hworks, Keyed.get?_eq_some_iff]
  rw [working, working, ← Keyed.values_filter, ← Keyed.values_filter, hfilter]

theorem sameWorking_insert {key : String} {host : HostReport} (hhost : host.verdict = .failure)
    (hkey : ∀ host', hosts.get? key = some host' → host'.verdict = .failure) :
    SameWorking hosts (hosts.insert key host) := by
  intro k other hworks
  rw [Keyed.get?_insert]
  split
  · rename_i hk
    subst hk
    constructor
    · intro hget
      exact absurd (hkey other hget) hworks
    · rintro ⟨⟩
      exact absurd hhost hworks
  · rfl

theorem policy_and_hosts_are_compared_both_ways (patterns : List String)
    (hosts : Keyed HostReport) :
    (∀ mode, mode ≠ .none →
      ((∃ c, check? mode patterns hosts = some c ∧ c.verdict = .success) ↔ Agrees patterns hosts)) ∧
    (¬ Agrees patterns hosts →
      check? .enforce patterns hosts =
          some
            (.fail Check.mtaStsConsistency (String.intercalate "; " (complaints patterns hosts))) ∧
        check? .testing patterns hosts =
          some
            (.warn Check.mtaStsConsistency (String.intercalate "; " (complaints patterns hosts)))) ∧
    check? .none patterns hosts = Option.none ∧
    ∀ mode hosts', SameWorking hosts hosts' →
    check? mode patterns hosts' = check? mode patterns hosts := by
  refine ⟨?_, ?_, check?_none, ?_⟩
  · intro mode hmode
    rw [check?_eq hmode, problems_eq_complaints]
    constructor
    · rintro ⟨c, hc, hverdict⟩
      cases hc
      split at hverdict
      · rename_i hnil
        exact complaints_eq_nil_iff.mp hnil
      · cases mode with
        | none => exact absurd rfl hmode
        | testing => cases hverdict
        | enforce => cases hverdict
    · intro hagrees
      rw [if_pos (complaints_eq_nil_iff.mpr hagrees)]
      exact ⟨_, rfl, rfl⟩
  · intro hdiffers
    have hsome : complaints patterns hosts ≠ [] :=
      fun hnil => hdiffers (complaints_eq_nil_iff.mp hnil)
    rw [check?_eq (by decide), check?_eq (by decide), problems_eq_complaints,
      if_neg hsome, if_neg hsome]
    exact ⟨rfl, rfl⟩
  · intro mode hosts' hsame
    exact check?_congr hsame.working_eq.symm

theorem stray_patterns_and_hosts_are_named :
    let report (host : String) (verdict : Verdict) : String × HostReport :=
      (host, ⟨"a.test", host, verdict, [], default⟩)
    let working : Keyed HostReport :=
      .ofList [report "mx9.a.test" .warning, report "mx.c.test" .success]
    let hosts := working.insert "mx1.a.test" (report "mx1.a.test" .failure).2
    let stray := ["mx1.a.test", "*.c.test", "*.b.test", "mx1.a.test"]
    let fitting := ["*.c.test", "MX9.A.test."]
    Mode.enforce ≠ .none ∧ SameWorking working hosts ∧
      ¬ Agrees stray working ∧
      check? .enforce stray hosts = some (.fail Check.mtaStsConsistency <|
        "mx1.a.test appears in the MTA-STS policy but matches no working MX host; " ++
        "*.b.test appears in the MTA-STS policy but matches no working MX host; " ++
        "mx1.a.test appears in the MTA-STS policy but matches no working MX host; " ++
        "mx9.a.test appears in the MX records but not in the MTA-STS policy") ∧
      (¬ ∃ c, check? .enforce stray working = some c ∧ c.verdict = .success) ∧
      Agrees fitting hosts ∧ ∃ c, check? .enforce fitting hosts = some c ∧
        c.verdict = .success := by
  intro report working hosts stray fitting
  have hcomplaints : complaints stray working =
      [unmatched "mx1.a.test", unmatched "*.b.test", unmatched "mx1.a.test",
        uncovered "mx9.a.test"] := by
    rw [← problems_eq_complaints]
    decide +kernel
  have hdiffers : ¬ Agrees stray working := by
    rw [← complaints_eq_nil_iff, hcomplaints]
    exact List.cons_ne_nil _ _
  have hagrees : Agrees fitting hosts := by
    rw [← complaints_eq_nil_iff, ← problems_eq_complaints]
    decide +kernel
  have hsame : SameWorking working hosts :=
    sameWorking_insert rfl fun _ hget => by cases hget
  obtain ⟨hsuccess, hfailure, -, hframe⟩ := policy_and_hosts_are_compared_both_ways stray working
  refine ⟨by decide, hsame, hdiffers, ?_,
    mt (hsuccess .enforce (by decide)).mp hdiffers, hagrees, ?_⟩
  · rw [hframe .enforce _ hsame, (hfailure hdiffers).1, hcomplaints]
    exact congrArg (some ∘ Check.fail Check.mtaStsConsistency) (by decide +kernel)
  · exact
      ((policy_and_hosts_are_compared_both_ways fitting hosts).1 .enforce (by decide)).mpr hagrees

end Consistency

end MailAudit.MtaSts
