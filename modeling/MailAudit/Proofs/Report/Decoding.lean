import MailAudit.Proofs.Json.Decoding
import MailAudit.Proofs.Keyed
import MailAudit.Proofs.Time.Rfc3339
import MailAudit.Report.Domain

namespace MailAudit

open Json (within)

namespace Verdict

theorem ofJson?_toJson (budget : Nat) (v : Verdict) : ofJson? budget v.toJson = some v := by
  cases v <;> rfl

theorem plain_toJson (v : Verdict) : v.toJson.Plain := .text v.word

end Verdict

namespace MtaSts.Mode

theorem ofJson?_toJson (budget : Nat) (m : Mode) : ofJson? budget m.toJson = some m := by
  cases m <;> rfl

theorem plain_toJson (m : Mode) : m.toJson.Plain := .text m.word

end MtaSts.Mode

namespace Check

theorem induct {P : Check → Prop}
    (step : ∀ name verdict messages checks, (∀ c ∈ checks, P c) →
      P ⟨name, verdict, messages, checks⟩) :
    ∀ c, P c
  | ⟨name, verdict, messages, checks⟩ => step name verdict messages checks fun c _ => induct step c

def fields (c : Check) : List (String × Json) :=
  ("name", .text c.name) :: ("status", c.verdict.toJson) ::
    ((if c.messages.isEmpty then [] else [("messages", .texts c.messages)]) ++
      (if c.checks.isEmpty then [] else [("checks", .array (toJsons c.checks))]))

theorem toJson_eq (c : Check) : c.toJson = Json.record c.fields := by
  obtain ⟨name, verdict, messages, checks⟩ := c
  simp only [toJson, fields, Json.record]
  split <;> split <;> rfl

theorem toJsons_eq_map (checks : List Check) : toJsons checks = checks.map toJson := by
  induction checks with
  | nil => rfl
  | cons c checks ih => rw [toJsons, ih, List.map_cons]

theorem plain_toJsons {checks : List Check} (h : ∀ c ∈ checks, c.toJson.Plain) :
    (Json.array (toJsons checks)).Plain := by
  rw [toJsons_eq_map]
  refine .array fun v hv => ?_
  obtain ⟨c, hc, rfl⟩ := List.mem_map.mp hv
  exact h c hc

theorem forall_mem_fields (P : Json → Prop) (c : Check) :
    (∀ f ∈ c.fields, P f.2) ↔ P (.text c.name) ∧ P c.verdict.toJson ∧
      (c.messages = [] ∨ P (.texts c.messages)) ∧
      (c.checks = [] ∨ P (.array (toJsons c.checks))) := by
  obtain ⟨name, verdict, messages, checks⟩ := c
  cases messages <;> cases checks <;> simp [fields]

theorem plain_toJson (c : Check) : c.toJson.Plain := by
  induction c using induct with
  | step name verdict messages checks ih =>
      rw [toJson_eq]
      refine Json.plain_record ((forall_mem_fields Json.Plain _).mpr
        ⟨.text name, verdict.plain_toJson, ?_, ?_⟩)
      · exact Or.inr (Json.plain_texts messages)
      · exact Or.inr (plain_toJsons ih)

theorem keys_fields (c : Check) : (c.fields.map Prod.fst).Sublist fieldNames := by
  simp only [fields]
  split <;> split <;> simp only [List.map, List.append_nil, List.nil_append,
    List.cons_append] <;> decide

theorem fields?_toJson (c : Check) : c.toJson.fields? fieldNames = some c.fields := by
  rw [toJson_eq]
  exact Json.fields?_record c.keys_fields (by decide)

theorem lookup_messages (c : Check) :
    c.fields.lookup "messages" = if c.messages.isEmpty then none else some (.texts c.messages) := by
  simp only [fields]
  split <;> split <;> rfl

theorem lookup_checks (c : Check) :
    c.fields.lookup "checks" =
      if c.checks.isEmpty then none else some (.array (toJsons c.checks)) := by
  simp only [fields]
  split <;> split <;> rfl

theorem depth_toJson_le_iff {c : Check} {n : Nat} :
    c.toJson.depth ≤ n + 1 ↔ (c.messages = [] ∨ 1 ≤ n) ∧
      (c.checks = [] ∨ (Json.array (toJsons c.checks)).depth ≤ n) := by
  have hname : (Json.text c.name).depth ≤ n := Nat.zero_le n
  have hverdict : c.verdict.toJson.depth ≤ n := Nat.zero_le n
  rw [toJson_eq]
  refine (Json.depth_record_le_iff.trans (forall_mem_fields (·.depth ≤ n) c)).trans ?_
  simp only [hname, hverdict, true_and, Json.depth_texts]

theorem listOfJson?_toJsons {checks : List Check} {n : Nat}
    (h : ∀ c ∈ checks, ∀ m, ofJson? m c.toJson = within m c.toJson c) :
    listOfJson? n (.array (toJsons checks)) = within n (.array (toJsons checks)) checks := by
  cases n with
  | zero => rfl
  | succ n =>
      rw [toJsons_eq_map, listOfJson?, Json.mapM_map_of_ite fun c hc => h c hc n, within]
      simp only [Json.depth_array_le_iff, List.forall_mem_map]

theorem ofJson?_succ_toJson {c : Check} {n : Nat}
    (hlist : listOfJson? n (.array (toJsons c.checks)) =
      within n (.array (toJsons c.checks)) c.checks) :
    ofJson? (n + 1) c.toJson = within (n + 1) c.toJson c := by
  have hname : Json.required? c.fields "name" Json.string? = some c.name := rfl
  have hverdict : Json.required? c.fields "status" (Verdict.ofJson? n) = some c.verdict :=
    Verdict.ofJson?_toJson n c.verdict
  have hmessages := Json.defaulted?_list (lookup_messages c) (Json.texts?_texts n c.messages)
  have hchecks := Json.defaulted?_list (lookup_checks c) hlist
  rw [ofJson?, fields?_toJson, within]
  simp only [Option.bind_eq_bind, Option.bind_some, hname, hverdict, hmessages, hchecks,
    Json.ite_bind, depth_toJson_le_iff, Json.depth_texts, ite_and]
  obtain ⟨name, verdict, messages, checks⟩ := c
  rfl

-- By induction on the tree of checks, each level of which takes two of the budget.
theorem ofJson?_toJson (c : Check) : ∀ n, ofJson? n c.toJson = within n c.toJson c := by
  induction c using induct with
  | step name verdict messages checks ih =>
      intro n
      cases n with
      | zero => rfl
      | succ n => exact ofJson?_succ_toJson (listOfJson?_toJsons ih)

theorem listOfJson?_toJson (n : Nat) (checks : List Check) :
    listOfJson? n (.array (toJsons checks)) = within n (.array (toJsons checks)) checks :=
  listOfJson?_toJsons fun c _ => c.ofJson?_toJson

end Check

namespace HostReport

def fields (r : HostReport) : List (String × Json) :=
  [("domain", .text r.domain), ("hostname", .text r.hostname), ("status", r.verdict.toJson),
    ("checks", .array (Check.toJsons r.checks)), ("timestamp", .text (Rfc3339.print r.observedAt))]

theorem toJson_eq (r : HostReport) : r.toJson = Json.record r.fields := rfl

theorem fields?_toJson (r : HostReport) : r.toJson.fields? fieldNames = some r.fields := by
  have hkeys : (r.fields.map Prod.fst).Sublist fieldNames := List.Sublist.refl fieldNames
  exact Json.fields?_record hkeys (by decide)

theorem forall_mem_fields (P : Json → Prop) (r : HostReport) :
    (∀ f ∈ r.fields, P f.2) ↔ P (.text r.domain) ∧ P (.text r.hostname) ∧ P r.verdict.toJson ∧
      P (.array (Check.toJsons r.checks)) ∧ P (.text (Rfc3339.print r.observedAt)) := by
  simp [fields]

theorem plain_toJson (r : HostReport) : r.toJson.Plain :=
  Json.plain_record ((forall_mem_fields Json.Plain r).mpr ⟨.text r.domain, .text r.hostname,
    r.verdict.plain_toJson, Check.plain_toJsons fun c _ => c.plain_toJson, .text _⟩)

theorem depth_toJson_le_iff {r : HostReport} {n : Nat} :
    r.toJson.depth ≤ n + 1 ↔ (Json.array (Check.toJsons r.checks)).depth ≤ n := by
  have htext (s : String) : (Json.text s).depth ≤ n := Nat.zero_le n
  have hverdict : r.verdict.toJson.depth ≤ n := Nat.zero_le n
  rw [toJson_eq]
  refine (Json.depth_record_le_iff.trans (forall_mem_fields (·.depth ≤ n) r)).trans ?_
  simp only [htext, hverdict, true_and, and_true]

theorem depth_toJson_le_of_flat {r : HostReport} (h : ∀ c ∈ r.checks, c.checks = []) :
    r.toJson.depth ≤ Json.nestingLimit := by
  refine depth_toJson_le_iff.mpr (Json.depth_array_le_iff.mpr ?_)
  rw [Check.toJsons_eq_map]
  intro v hv
  obtain ⟨c, hc, rfl⟩ := List.mem_map.mp hv
  exact Check.depth_toJson_le_iff.mpr ⟨.inr (by decide), .inl (h c hc)⟩

theorem instantOfJson?_print (t : Instant) : instantOfJson? (.text (Rfc3339.print t)) = some t := by
  rw [instantOfJson?, Json.text, Json.string?, Option.bind_some, Rfc3339.read?_print]

theorem ofJson?_toJson (r : HostReport) (n : Nat) : ofJson? n r.toJson = within n r.toJson r := by
  cases n with
  | zero => rfl
  | succ n =>
      have hdomain : Json.required? r.fields "domain" Json.string? = some r.domain := rfl
      have hhostname : Json.required? r.fields "hostname" Json.string? = some r.hostname := rfl
      have hverdict : Json.required? r.fields "status" (Verdict.ofJson? n) = some r.verdict :=
        Verdict.ofJson?_toJson n r.verdict
      have hchecks : Json.required? r.fields "checks" (Check.listOfJson? n) =
          within n (.array (Check.toJsons r.checks)) r.checks :=
        Check.listOfJson?_toJson n r.checks
      have hobserved : Json.required? r.fields "timestamp" instantOfJson? = some r.observedAt :=
        (Json.required?_of_lookup rfl).trans (instantOfJson?_print r.observedAt)
      rw [ofJson?, fields?_toJson, within]
      simp only [Option.bind_eq_bind, Option.bind_some, hdomain, hhostname, hverdict, hchecks,
        hobserved, within, Json.ite_bind, depth_toJson_le_iff]

theorem read?_print (r : HostReport) :
    read? r.print = if r.toJson.depth ≤ Json.nestingLimit then some r else none := by
  rw [read?, print, r.plain_toJson.parse?_print, Option.bind_some, ofJson?_toJson, within]

theorem checks_of_read?_print {r r' : HostReport} (h : read? r.print = some r') :
    r'.checks = r.checks := by
  rw [read?_print] at h
  split at h
  · cases h
    rfl
  · cases h

end HostReport

namespace PolicyReport

def fields (r : PolicyReport) : List (String × Json) :=
  [("mode", r.mode.toJson), ("mxs", .texts r.patterns), ("max_age", .nat r.maxAge.toNat),
    ("record_id", (r.recordId.map Json.text).getD .null), ("result", r.result.toJson)]

theorem toJson_eq (r : PolicyReport) : r.toJson = Json.record r.fields := rfl

theorem toJson_ne_null (r : PolicyReport) : r.toJson ≠ .null := by
  intro h
  cases h

theorem fields?_toJson (r : PolicyReport) : r.toJson.fields? fieldNames = some r.fields := by
  have hkeys : (r.fields.map Prod.fst).Sublist fieldNames := List.Sublist.refl fieldNames
  exact Json.fields?_record hkeys (by decide)

theorem forall_mem_fields (P : Json → Prop) (r : PolicyReport) :
    (∀ f ∈ r.fields, P f.2) ↔ P r.mode.toJson ∧ P (.texts r.patterns) ∧ P (.nat r.maxAge.toNat) ∧
      P ((r.recordId.map Json.text).getD .null) ∧ P r.result.toJson := by
  simp [fields]

theorem plain_toJson (r : PolicyReport) : r.toJson.Plain := by
  have hid : ((r.recordId.map Json.text).getD .null).Plain := by
    cases r.recordId with
    | none => exact .null
    | some id => exact .text id
  exact Json.plain_record ((forall_mem_fields Json.Plain r).mpr ⟨r.mode.plain_toJson,
    Json.plain_texts r.patterns, .nat _, hid, r.result.plain_toJson⟩)

theorem depth_toJson_le_iff {r : PolicyReport} {n : Nat} :
    r.toJson.depth ≤ n + 1 ↔ 1 ≤ n ∧ r.result.toJson.depth ≤ n := by
  have hmode : r.mode.toJson.depth ≤ n := Nat.zero_le n
  have hage : (Json.nat r.maxAge.toNat).depth ≤ n := Nat.zero_le n
  have hid : ((r.recordId.map Json.text).getD .null).depth ≤ n := by
    cases r.recordId <;> exact Nat.zero_le n
  rw [toJson_eq]
  refine (Json.depth_record_le_iff.trans (forall_mem_fields (·.depth ≤ n) r)).trans ?_
  simp only [hmode, hage, hid, Json.depth_texts, true_and]

theorem word?_nat (n : UInt64) : (Json.nat n.toNat).word? = some n.toNat := by
  have hfits : n.toNat ≤ Text.Decimal.maxWord := by
    have hlt := n.toNat_lt
    simp only [Text.Decimal.maxWord, Nat.pow_eq]
    omega
  simp [Json.nat, Json.word?, Numeral.ofNat, Numeral.word?, Text.Decimal.readDigits?_digits, hfits]

theorem ofJson?_toJson (r : PolicyReport) (n : Nat) : ofJson? n r.toJson = within n r.toJson r := by
  cases n with
  | zero => rfl
  | succ n =>
      have hmode : Json.required? r.fields "mode" (MtaSts.Mode.ofJson? n) = some r.mode :=
        MtaSts.Mode.ofJson?_toJson n r.mode
      have hpatterns : Json.required? r.fields "mxs" (Json.texts? n) =
          within n (.texts r.patterns) r.patterns := Json.texts?_texts n r.patterns
      have hage : Json.required? r.fields "max_age" Json.word? = some r.maxAge.toNat :=
        word?_nat r.maxAge
      have hid : Json.nullable? r.fields "record_id" Json.string? = some r.recordId := by
        obtain ⟨mode, patterns, maxAge, recordId, result⟩ := r
        cases recordId <;> rfl
      have hresult : Json.required? r.fields "result" (Check.ofJson? n) =
          within n r.result.toJson r.result := r.result.ofJson?_toJson n
      rw [ofJson?, fields?_toJson, within]
      simp only [Option.bind_eq_bind, Option.bind_some, hmode, hpatterns, hage, hid,
        hresult, within, Json.ite_bind, depth_toJson_le_iff, Json.depth_texts, ite_and,
        UInt64.ofNat_toNat]

end PolicyReport

namespace DomainReport

def hostsToJson (hosts : Keyed HostReport) : Json :=
  Json.record (hosts.entries.map fun e => (e.1, e.2.toJson))

def fields (r : DomainReport) : List (String × Json) :=
  ("domain", .text r.domain) :: ("status", r.verdict.toJson) ::
    ((r.message.map fun m => ("message", Json.text m)).toList ++
      ("mx_hostnames", .texts r.mxHosts) :: ("preferred_hostnames", .texts r.preferredHosts) ::
      ("hostname_results", hostsToJson r.hosts) ::
      ((r.policy.map fun p => ("mta_sts", p.toJson)).toList ++
        [("timestamp", .text (Rfc3339.print r.observedAt))]))

theorem toJson_eq (r : DomainReport) : r.toJson = Json.record r.fields := by
  obtain ⟨domain, verdict, message, mxHosts, preferredHosts, hosts, policy, observedAt⟩ := r
  cases message <;> cases policy <;> simp [toJson, fields, Json.record, hostsToJson,
    Function.comp_def]

theorem keys_fields (r : DomainReport) : (r.fields.map Prod.fst).Sublist fieldNames := by
  obtain ⟨domain, verdict, message, mxHosts, preferredHosts, hosts, policy, observedAt⟩ := r
  cases message <;> cases policy <;>
    simp only [fields, Option.map, Option.toList, List.nil_append, List.cons_append, List.map] <;>
    decide

theorem fields?_toJson (r : DomainReport) : r.toJson.fields? fieldNames = some r.fields := by
  rw [toJson_eq]
  exact Json.fields?_record r.keys_fields (by decide)

theorem lookup_fields (r : DomainReport) :
    r.fields.lookup "domain" = some (.text r.domain) ∧
    r.fields.lookup "status" = some r.verdict.toJson ∧
    r.fields.lookup "message" = r.message.map Json.text ∧
    r.fields.lookup "mx_hostnames" = some (.texts r.mxHosts) ∧
    r.fields.lookup "preferred_hostnames" = some (.texts r.preferredHosts) ∧
    r.fields.lookup "hostname_results" = some (hostsToJson r.hosts) ∧
    r.fields.lookup "mta_sts" = r.policy.map PolicyReport.toJson ∧
    r.fields.lookup "timestamp" = some (.text (Rfc3339.print r.observedAt)) := by
  obtain ⟨domain, verdict, message, mxHosts, preferredHosts, hosts, policy, observedAt⟩ := r
  cases message <;> cases policy <;> exact ⟨rfl, rfl, rfl, rfl, rfl, rfl, rfl, rfl⟩

theorem forall_mem_fields (P : Json → Prop) (r : DomainReport) :
    (∀ f ∈ r.fields, P f.2) ↔ P (.text r.domain) ∧ P r.verdict.toJson ∧
      (∀ m ∈ r.message, P (.text m)) ∧ P (.texts r.mxHosts) ∧ P (.texts r.preferredHosts) ∧
      P (hostsToJson r.hosts) ∧ (∀ p ∈ r.policy, P p.toJson) ∧
      P (.text (Rfc3339.print r.observedAt)) := by
  obtain ⟨domain, verdict, message, mxHosts, preferredHosts, hosts, policy, observedAt⟩ := r
  cases message <;> cases policy <;> simp [fields]

theorem plain_hostsToJson (hosts : Keyed HostReport) : (hostsToJson hosts).Plain := by
  refine Json.plain_record fun f hf => ?_
  obtain ⟨e, -, rfl⟩ := List.mem_map.mp hf
  exact e.2.plain_toJson

theorem plain_toJson (r : DomainReport) : r.toJson.Plain := by
  rw [toJson_eq]
  exact Json.plain_record ((forall_mem_fields Json.Plain r).mpr ⟨.text r.domain,
    r.verdict.plain_toJson, fun m _ => .text m, Json.plain_texts r.mxHosts,
    Json.plain_texts r.preferredHosts, plain_hostsToJson r.hosts, fun p _ => p.plain_toJson,
    .text _⟩)

theorem depth_hostsToJson_le_iff {hosts : Keyed HostReport} {n : Nat} :
    (hostsToJson hosts).depth ≤ n + 1 ↔ ∀ e ∈ hosts.entries, e.2.toJson.depth ≤ n := by
  rw [hostsToJson, Json.depth_record_le_iff, List.forall_mem_map]

theorem depth_toJson_le_iff {r : DomainReport} {n : Nat} :
    r.toJson.depth ≤ n + 1 ↔ 1 ≤ n ∧ (hostsToJson r.hosts).depth ≤ n ∧
      ∀ p ∈ r.policy, p.toJson.depth ≤ n := by
  have htext (s : String) : (Json.text s).depth ≤ n := Nat.zero_le n
  have hverdict : r.verdict.toJson.depth ≤ n := Nat.zero_le n
  rw [toJson_eq]
  refine (Json.depth_record_le_iff.trans (forall_mem_fields (·.depth ≤ n) r)).trans ?_
  simp only [htext, hverdict, Json.depth_texts, implies_true, true_and, and_true, and_self_left]

theorem hostsOfJson?_hostsToJson (n : Nat) (hosts : Keyed HostReport) :
    hostsOfJson? n (hostsToJson hosts) = within n (hostsToJson hosts) hosts := by
  cases n with
  | zero => rfl
  | succ n =>
      have hentry (e : String × HostReport) :
          ((HostReport.ofJson? n e.2.toJson).map fun host => (e.1, host)) =
            if e.2.toJson.depth ≤ n then some e else none := by
        rw [HostReport.ofJson?_toJson, Json.within_map]
        rfl
      have hread : (hosts.entries.map fun e => (e.1, e.2.toJson)).mapM
          (fun e => (HostReport.ofJson? n e.2).map fun host => (e.1, host)) =
          if ∀ e ∈ hosts.entries, e.2.toJson.depth ≤ n then some hosts.entries else none :=
        Json.mapM_map_of_ite fun e _ => hentry e
      rw [hostsOfJson?, hostsToJson, Json.entries?_record, within]
      simp only [Option.bind_eq_bind, Option.bind_some, hread, Json.ite_bind, Keyed.ofList_entries,
        Json.depth_record_le_iff, List.forall_mem_map]

theorem ofJson?_toJson (r : DomainReport) (n : Nat) : ofJson? n r.toJson = within n r.toJson r := by
  cases n with
  | zero =>
      rw [toJson_eq]
      rfl
  | succ n =>
      obtain ⟨ldomain, lstatus, lmessage, lmx, lpreferred, lhosts, lpolicy, lobserved⟩ :=
        r.lookup_fields
      have hdomain : Json.required? r.fields "domain" Json.string? = some r.domain :=
        Json.required?_of_lookup ldomain
      have hverdict : Json.required? r.fields "status" (Verdict.ofJson? n) = some r.verdict :=
        (Json.required?_of_lookup lstatus).trans (Verdict.ofJson?_toJson n r.verdict)
      have hmessage : Json.nullable? r.fields "message" Json.string? = some r.message := by
        obtain ⟨domain, verdict, message, mxHosts, preferredHosts, hosts, policy, observedAt⟩ := r
        rw [Json.nullable?, lmessage]
        cases message <;> rfl
      have hmx : Json.required? r.fields "mx_hostnames" (Json.texts? n) =
          within n (.texts r.mxHosts) r.mxHosts :=
        (Json.required?_of_lookup lmx).trans (Json.texts?_texts n r.mxHosts)
      have hpreferred : Json.required? r.fields "preferred_hostnames" (Json.texts? n) =
          within n (.texts r.preferredHosts) r.preferredHosts :=
        (Json.required?_of_lookup lpreferred).trans (Json.texts?_texts n r.preferredHosts)
      have hhosts : Json.required? r.fields "hostname_results" (hostsOfJson? n) =
          within n (hostsToJson r.hosts) r.hosts :=
        (Json.required?_of_lookup lhosts).trans (hostsOfJson?_hostsToJson n r.hosts)
      have hpolicy := Json.nullable?_option lpolicy (fun p _ => p.ofJson?_toJson n)
        (fun p _ => p.toJson_ne_null)
      have hobserved : Json.required? r.fields "timestamp" HostReport.instantOfJson? =
          some r.observedAt :=
        (Json.required?_of_lookup lobserved).trans (HostReport.instantOfJson?_print r.observedAt)
      rw [ofJson?, fields?_toJson, within]
      simp only [Option.bind_eq_bind, Option.bind_some, hdomain, hverdict, hmessage,
        hmx, hpreferred, hhosts, hpolicy, hobserved, within, Json.ite_bind, Json.depth_texts,
        depth_toJson_le_iff,
        ite_and]
      by_cases hn : 1 ≤ n
      · rw [if_pos hn, if_pos hn]
      · rw [if_neg hn, if_neg hn]

end DomainReport

end MailAudit
