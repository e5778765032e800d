import MailAudit.MtaSts.Audit
import MailAudit.Proofs.MtaSts.Consistency
import MailAudit.Proofs.MtaSts.Fetch

namespace MailAudit.MtaSts.Audit

variable {domain url : String} {requested : Except FetchError Http.Response} {policy : Policy}
  {contentType : Option String} {answer : Except Dns.LookupError (List String)}
    {hosts : Keyed HostReport}

theorem name_recordCheck (answer : Except Dns.LookupError (List String)) :
    (recordCheck answer).1.name = Check.mtaStsText := by
  simp only [recordCheck]
  split
  · rfl
  · split <;> rfl

theorem name_fileCheck (contentType : Option String) :
    (fileCheck contentType).name = Check.mtaStsPolicyFile := by
  simp only [fileCheck]
  split <;> rfl

theorem check?_report (policy : Policy) (contentType : Option String)
    (answer : Except Dns.LookupError (List String)) (hosts : Keyed HostReport) :
    (report policy contentType answer hosts).check? Check.mtaStsConsistency =
      Consistency.check? policy.mode policy.patterns hosts := by
  have hrecord : ((recordCheck answer).1.name == Check.mtaStsConsistency) = false := by
    rw [name_recordCheck]
    decide
  have hfile : ((fileCheck contentType).name == Check.mtaStsConsistency) = false := by
    rw [name_fileCheck]
    decide
  simp only [report, PolicyReport.check?, PolicyReport.ofChecks, Check.part?, Check.group,
    Check.named?, List.find?_cons, hrecord, hfile]
  cases hcheck : Consistency.check? policy.mode policy.patterns hosts with
  | none => rfl
  | some c =>
      have hname : (c.name == Check.mtaStsConsistency) = true :=
        beq_iff_eq.mpr (Consistency.name_of_check? hcheck)
      simp only [Option.toList_some, List.find?_cons, hname]

theorem recordCheck_id_iff {id : String} :
    (recordCheck answer).2 = some id ↔ ∃ records, answer = .ok records ∧
    Record.find records = .ok id := by
  cases answer with
  | error e => simp [recordCheck]
  | ok records =>
    cases hfind : Record.find records with
    | error e => simp [recordCheck, hfind]
    | ok found => simp [recordCheck, hfind]

theorem verdict_recordCheck_iff :
    (recordCheck answer).1.verdict = .success ↔ (recordCheck answer).2.isSome = true := by
  simp only [recordCheck]
  split
  · exact ⟨nofun, nofun⟩
  · split
    · exact ⟨fun _ => rfl, fun _ => rfl⟩
    · exact ⟨nofun, nofun⟩

theorem verdict_fileCheck_iff :
    (fileCheck contentType).verdict = .success ↔ Fetched.isPlainText contentType = true := by
  simp only [fileCheck]
  split
  · rename_i hplain
    exact ⟨fun _ => hplain, fun _ => rfl⟩
  · rename_i hplain
    exact ⟨nofun, fun h => absurd h hplain⟩

theorem names_consistency (mode : Mode) (patterns : List String) (hosts : Keyed HostReport) :
    (Consistency.check? mode patterns hosts).toList.map (·.name) =
      if mode = .none then [] else [Check.mtaStsConsistency] := by
  split
  · rename_i hmode
    rw [hmode, Consistency.check?_none]
    rfl
  · rename_i hmode
    obtain ⟨c, hc, -⟩ := Consistency.exists_check? patterns hosts hmode
    rw [hc, Option.toList_some, List.map_singleton, Consistency.name_of_check? hc]

/-- The report repeats the policy, names the id of the record if there is one, and has a check of
the record, one of the file, and one of the hosts if the policy asks for any. -/
structure Describes (report : PolicyReport) (policy : Policy) (contentType : Option String)
    (answer : Except Dns.LookupError (List String)) (hosts : Keyed HostReport) : Prop where
  mode_eq : report.mode = policy.mode
  patterns_eq : report.patterns = policy.patterns
  maxAge_eq : report.maxAge = policy.maxAge
  recordId_iff :
    ∀ id, report.recordId = some id ↔ ∃ records, answer = .ok records ∧ Record.find records = .ok id
  checks_eq : ∃ text file,
    report.result.checks = text :: file ::
      (Consistency.check? policy.mode policy.patterns hosts).toList ∧
      (text.verdict = .success ↔ report.recordId.isSome = true) ∧
      (file.verdict = .success ↔ Fetched.isPlainText contentType = true)
  names_eq : report.result.checks.map (·.name) = Check.mtaStsText :: Check.mtaStsPolicyFile ::
    if policy.mode = .none then [] else [Check.mtaStsConsistency]
  verdict_le_iff : ∀ v, report.verdict ≤ v ↔ ∀ c ∈ report.result.checks, c.verdict ≤ v

theorem describes_report (policy : Policy) (contentType : Option String)
    (answer : Except Dns.LookupError (List String)) (hosts : Keyed HostReport) :
    Describes (report policy contentType answer hosts) policy contentType answer hosts where
  mode_eq := rfl
  patterns_eq := rfl
  maxAge_eq := rfl
  recordId_iff _ := recordCheck_id_iff
  checks_eq := ⟨_, _, rfl, verdict_recordCheck_iff, verdict_fileCheck_iff⟩
  names_eq := by
    rw [← names_consistency policy.mode policy.patterns hosts, ← name_recordCheck answer,
      ← name_fileCheck contentType]
    rfl
  verdict_le_iff v := by
    refine Verdict.worst_le_iff.trans ?_
    rw [List.forall_mem_map]
    rfl

def Inconsistent (report : PolicyReport) : Prop :=
  ∃ c ∈ report.result.checks, c.name = Check.mtaStsConsistency ∧ c.verdict ≠ .success

instance (report : PolicyReport) : Decidable (Inconsistent report) :=
  inferInstanceAs <| Decidable <|
    ∃ c ∈ report.result.checks, c.name = Check.mtaStsConsistency ∧ c.verdict ≠ .success

theorem mem_checks_report_iff {c : Check} :
    c ∈ (report policy contentType answer hosts).result.checks ∧ c.name = Check.mtaStsConsistency ↔
      Consistency.check? policy.mode policy.patterns hosts = some c := by
  change c ∈ (recordCheck answer).1 :: fileCheck contentType ::
    (Consistency.check? policy.mode policy.patterns hosts).toList ∧ _ ↔ _
  constructor
  · rintro ⟨hmem, hname⟩
    rcases List.mem_cons.mp hmem with rfl | hmem
    · exact absurd ((name_recordCheck answer).symm.trans hname) (by decide)
    · rcases List.mem_cons.mp hmem with rfl | hmem
      · exact absurd ((name_fileCheck contentType).symm.trans hname) (by decide)
      · exact Option.mem_toList.mp hmem
  · intro hcheck
    refine ⟨List.mem_cons_of_mem _ (List.mem_cons_of_mem _ ?_), Consistency.name_of_check? hcheck⟩
    exact Option.mem_toList.mpr hcheck

theorem isInconsistent_report_iff :
    isInconsistent (report policy contentType answer hosts) = true ↔
      Inconsistent (report policy contentType answer hosts) := by
  simp only [isInconsistent, check?_report, Option.any_eq_true, Verdict.isSuccess,
    Bool.not_eq_true', beq_eq_false_iff_ne, Inconsistent, ← and_assoc, mem_checks_report_iff]

theorem counters_foundNotes (domain : String) (r : PolicyReport) :
    Note.counters (foundNotes domain r) =
      if isInconsistent r = true then [.failure .policyInconsistent, .milestone .policyFound]
      else [.milestone .policyFound] := by
  rw [foundNotes]
  split <;> rfl

def Offers (requested : Except FetchError Http.Response) (policy : Policy)
    (contentType : Option String) : Prop :=
  ∃ r body, requested = .ok r ∧ Fetched.HandsOut r body ∧ Policy.read body = .ok policy ∧
    r.contentType = contentType

theorem offers_iff :
    Offers requested policy contentType ↔
    ∃ fetched, (do Fetched.ofResponse (← requested)) = .ok fetched ∧
      Policy.read fetched.body = .ok policy ∧ fetched.contentType = contentType := by
  constructor
  · rintro ⟨r, body, rfl, hhands, hread, hkind⟩
    exact ⟨⟨body, contentType⟩, Fetched.ofResponse_eq_ok_iff.mpr ⟨hhands, hkind.symm⟩, hread, rfl⟩
  · rintro ⟨fetched, hfetched, hread, hkind⟩
    cases requested with
    | error e => cases hfetched
    | ok r =>
      obtain ⟨hhands, htype⟩ := Fetched.ofResponse_eq_ok_iff.mp hfetched
      exact ⟨r, fetched.body, rfl, hhands, hread, htype ▸ hkind⟩

theorem run_of_offers (h : Offers requested policy contentType) :
    run domain url (do Fetched.ofResponse (← requested)) answer hosts =
      (some (report policy contentType answer hosts),
        foundNotes domain (report policy contentType answer hosts)) := by
  obtain ⟨fetched, hfetched, hread, rfl⟩ := offers_iff.mp h
  simp only [run, hfetched, hread]

theorem run_of_not_offers (h : ∀ policy contentType, ¬ Offers requested policy contentType) :
    (run domain url (do Fetched.ofResponse (← requested)) answer hosts).1 = none ∧
      Note.counters (run domain url (do Fetched.ofResponse (← requested)) answer hosts).2 =
        [.failure .policyUnavailable] := by
  cases hfetched : (do Fetched.ofResponse (← requested)) with
  | error e => exact ⟨rfl, rfl⟩
  | ok fetched =>
    cases hread : Policy.read fetched.body with
    | error e =>
      simp only [run, hread, true_and]
      rfl
    | ok policy => exact absurd (offers_iff.mpr ⟨fetched, hfetched, hread, rfl⟩) (h policy _)

def outcome (domain url : String) (requested : Except FetchError Http.Response)
    (answer : Except Dns.LookupError (List String)) (hosts : Keyed HostReport) :
    Option PolicyReport × List Note :=
  run domain url (do Fetched.ofResponse (← requested)) answer hosts

-- The program has the bytes that the web server sends in place of a response.
theorem run_fetch (reply : Except ConnectError (List UInt8)) :
    run domain url (Fetched.fetch reply) answer hosts =
      outcome domain url (Fetched.answered reply) answer hosts :=
  congrArg (run domain url · answer hosts) (Fetched.fetch_eq reply)

theorem offered_policy_is_reported (domain url : String)
    (requested : Except FetchError Http.Response) (answer : Except Dns.LookupError (List String))
    (hosts : Keyed HostReport) :
    ((outcome domain url requested answer hosts).1.isSome = true ↔
      ∃ policy contentType, Offers requested policy contentType) ∧
    (∀ policy contentType, Offers requested policy contentType →
      ∃ report, (outcome domain url requested answer hosts).1 = some report ∧
        Describes report policy contentType answer hosts) ∧
    ((outcome domain url requested answer hosts).1 = none →
      Note.counters (outcome domain url requested answer hosts).2 = [.failure .policyUnavailable]) ∧
    (∀ report, (outcome domain url requested answer hosts).1 = some report →
      Note.counters (outcome domain url requested answer hosts).2 =
        if Inconsistent report then [.failure .policyInconsistent, .milestone .policyFound]
        else [.milestone .policyFound]) ∧
    (∀ r chunks, requested = .ok r → chunks.flatten = r.chunks.flatten →
      outcome domain url (.ok { r with chunks }) answer hosts =
        outcome domain url requested answer hosts) ∧
    ∀ answer', (outcome domain url requested answer' hosts).1.isSome =
      (outcome domain url requested answer hosts).1.isSome := by
  have hchunks : ∀ r chunks, requested = .ok r → chunks.flatten = r.chunks.flatten →
      outcome domain url (.ok { r with chunks }) answer hosts =
        outcome domain url requested answer hosts := by
    rintro r chunks rfl h
    exact congrArg (run domain url · answer hosts) (Fetched.ofResponse_chunks h)
  by_cases hoffers : ∃ policy contentType, Offers requested policy contentType
  · obtain ⟨policy, contentType, hoffer⟩ := hoffers
    have hrun (answer : Except Dns.LookupError (List String)) :
        outcome domain url requested answer hosts = _ := run_of_offers hoffer
    refine ⟨?_, ?_, ?_, ?_, hchunks, ?_⟩
    · rw [hrun]
      exact ⟨fun _ => ⟨policy, contentType, hoffer⟩, fun _ => rfl⟩
    · intro policy' contentType' hoffer'
      exact ⟨_, congrArg Prod.fst (run_of_offers hoffer'), describes_report _ _ _ _⟩
    · intro hnone
      rw [hrun] at hnone
      cases hnone
    · intro report hreport
      rw [hrun] at hreport ⊢
      cases hreport
      rw [counters_foundNotes]
      simp only [isInconsistent_report_iff]
    · intro answer'
      rw [hrun, hrun]
      rfl
  · have hnot : ∀ policy contentType, ¬ Offers requested policy contentType :=
      fun policy contentType h => hoffers ⟨policy, contentType, h⟩
    have hnone (answer : Except Dns.LookupError (List String)) :
        (outcome domain url requested answer hosts).1 = none := (run_of_not_offers hnot).1
    refine ⟨?_, ?_, ?_, ?_, hchunks, ?_⟩
    · rw [hnone]
      exact ⟨nofun, fun h => absurd h hoffers⟩
    · intro policy contentType h
      exact absurd h (hnot policy contentType)
    · exact fun _ => (run_of_not_offers hnot).2
    · intro report hreport
      rw [hnone] at hreport
      cases hreport
    · intro answer'
      rw [hnone, hnone]

theorem policy_cut_inside_a_character_is_reported :
    ∃ (r : Http.Response) (report : PolicyReport),
      r.chunks = [Text.Utf8.encode "version:STSv1\nmode:testing\nmax_age:60\nmx:m" ++ [0xC3],
        0xBC :: Text.Utf8.encode ".a.test\n"] ∧
      Offers (.ok r) ⟨.testing, 60, ["m\u00FC.a.test"]⟩ (some "text/plain") ∧
      (outcome "a.test" "https://a.test" (.ok r) (.error ⟨"_mta-sts.a.test", "timeout"⟩) .empty).1 =
        some report ∧
      Describes report ⟨.testing, 60,
        ["m\u00FC.a.test"]⟩ (some "text/plain") (.error ⟨"_mta-sts.a.test", "timeout"⟩)
        .empty ∧
      Note.counters (outcome "a.test" "https://a.test" (.ok r)
        (.error ⟨"_mta-sts.a.test", "timeout"⟩) .empty).2 =
        [.failure .policyInconsistent, .milestone .policyFound] ∧
      (outcome "a.test" "https://a.test" (.ok { r with status := 404 }) (.ok []) .empty).1 = none ∧
      Note.counters
        (outcome "a.test" "https://a.test" (.ok { r with status := 404 }) (.ok []) .empty).2 =
        [.failure .policyUnavailable] := by
  let r : Http.Response :=
    { status := 200, contentType := some "text/plain", declaredLength := some 52, whole := true
      chunks := [Text.Utf8.encode "version:STSv1\nmode:testing\nmax_age:60\nmx:m" ++ [0xC3],
        0xBC :: Text.Utf8.encode ".a.test\n"] }
  have hhands : Fetched.HandsOut r "version:STSv1\nmode:testing\nmax_age:60\nmx:m\u00FC.a.test\n" :=
    { status_eq := rfl, declared_le := by decide +kernel, whole_eq := rfl,
      length_le := by decide +kernel
      encoded := by decide +kernel }
  have hoffers : Offers (.ok r) ⟨.testing, 60, ["m\u00FC.a.test"]⟩ (some "text/plain") :=
    ⟨r, _, rfl, hhands, by rfl, rfl⟩
  obtain ⟨-, hreported, -, hcounted, -⟩ :=
    offered_policy_is_reported "a.test" "https://a.test" (.ok r)
      (.error ⟨"_mta-sts.a.test", "timeout"⟩) .empty
  obtain ⟨report, hreport, hdescribes⟩ := hreported _ _ hoffers
  obtain ⟨-, -, hrefused, -⟩ :=
    offered_policy_is_reported "a.test" "https://a.test" (.ok { r with status := 404 })
      (.ok []) .empty
  have hinconsistent : Inconsistent report := by
    have hreport' : report = _ :=
      Option.some.inj (hreport.symm.trans (congrArg Prod.fst (run_of_offers hoffers)))
    rw [hreport']
    decide +kernel
  exact ⟨r, report, rfl, hoffers, hreport, hdescribes,
    (hcounted report hreport).trans (if_pos hinconsistent), rfl, hrefused rfl⟩

end MailAudit.MtaSts.Audit
