import MailAudit.Proofs.Report.Decoding
import Mathlib

namespace MailAudit

namespace Check

theorem depth_toJsons_le {n : Nat} (ih : ∀ m < n, ∀ v c, ofJson? m v = some c → c.toJson.depth ≤ m)
    {v : Json} {checks : List Check} (h : listOfJson? n v = some checks) :
    (Json.array (toJsons checks)).depth ≤ n := by
  cases n with
  | zero => cases h
  | succ n =>
      cases v with
      | array elements =>
          rw [toJsons_eq_map]
          refine Json.depth_array_le_iff.mpr fun w hw => ?_
          obtain ⟨c, hc, rfl⟩ := List.mem_map.mp hw
          obtain ⟨u, -, hu⟩ := Json.exists_of_mem_mapM h hc
          exact ih n (Nat.lt_succ_self n) u c hu
      | _ => cases h

-- By induction on the budget. What is left out of the text when it is empty may not have been in
-- it.
theorem depth_toJson_le {n : Nat} {v : Json} {c : Check} (h : ofJson? n v = some c) :
    c.toJson.depth ≤ n := by
  induction n using Nat.strongRecOn generalizing v c with
  | ind n ih =>
      cases n with
      | zero => cases h
      | succ n =>
          rw [ofJson?] at h
          simp only [Option.bind_eq_bind, Option.bind_eq_some_iff] at h
          obtain ⟨fields, -, name, -, verdict, -, messages, hmessages, checks, hchecks, heq⟩ := h
          cases heq
          refine depth_toJson_le_iff.mpr ⟨?_, ?_⟩
          · rcases Json.of_defaulted?_eq_some hmessages with hnone | ⟨u, hu⟩
            · exact Or.inl hnone
            · exact Or.inr (Json.one_le_of_texts? hu)
          · rcases Json.of_defaulted?_eq_some hchecks with hnone | ⟨u, hu⟩
            · exact Or.inl hnone
            · exact Or.inr (depth_toJsons_le (fun m hm v c => ih m (Nat.lt_succ_of_lt hm)) hu)

end Check

theorem HostReport.depth_toJson_le {n : Nat} {v : Json} {r : HostReport}
    (h : ofJson? n v = some r) : r.toJson.depth ≤ n := by
  cases n with
  | zero => cases h
  | succ n =>
      rw [ofJson?] at h
      simp only [Option.bind_eq_bind, Option.bind_eq_some_iff] at h
      obtain ⟨fields, -, domain, -, hostname, -, verdict, -, checks, hchecks, observedAt, -,
        heq⟩ := h
      cases heq
      obtain ⟨u, hu⟩ := Json.of_required?_eq_some hchecks
      exact depth_toJson_le_iff.mpr
        (Check.depth_toJsons_le (fun _ _ _ _ => Check.depth_toJson_le) hu)

theorem PolicyReport.depth_toJson_le {n : Nat} {v : Json} {r : PolicyReport}
    (h : ofJson? n v = some r) : r.toJson.depth ≤ n := by
  cases n with
  | zero => cases h
  | succ n =>
      rw [ofJson?] at h
      simp only [Option.bind_eq_bind, Option.bind_eq_some_iff] at h
      obtain ⟨fields, -, mode, -, patterns, hpatterns, maxAge, -, recordId, -,
          result, hresult, heq⟩ := h
      cases heq
      obtain ⟨u, hu⟩ := Json.of_required?_eq_some hpatterns
      obtain ⟨w, hw⟩ := Json.of_required?_eq_some hresult
      exact depth_toJson_le_iff.mpr ⟨Json.one_le_of_texts? hu, Check.depth_toJson_le hw⟩

namespace DomainReport

theorem depth_hostsToJson_le {n : Nat} {v : Json} {hosts : Keyed HostReport}
    (h : hostsOfJson? n v = some hosts) : (hostsToJson hosts).depth ≤ n := by
  cases n with
  | zero => cases h
  | succ n =>
      rw [hostsOfJson?] at h
      simp only [Option.bind_eq_bind, Option.bind_eq_some_iff] at h
      obtain ⟨entries, -, hosts', hread, heq⟩ := h
      cases heq
      refine depth_hostsToJson_le_iff.mpr fun e he => ?_
      obtain ⟨u, -, hu⟩ := Json.exists_of_mem_mapM hread (Keyed.mem_entries_ofList he)
      obtain ⟨host, hhost, heq⟩ := Option.map_eq_some_iff.mp hu
      rw [← heq]
      exact HostReport.depth_toJson_le hhost

theorem depth_toJson_le {n : Nat} {v : Json} {r : DomainReport} (h : ofJson? n v = some r) :
    r.toJson.depth ≤ n := by
  cases n with
  | zero => cases h
  | succ n =>
      rw [ofJson?] at h
      simp only [Option.bind_eq_bind, Option.bind_eq_some_iff] at h
      obtain ⟨fields, -, domain, -, verdict, -, message, -, mxHosts, hmx, preferredHosts, -, hosts,
        hhosts, policy, hpolicy, observedAt, -, heq⟩ := h
      cases heq
      obtain ⟨u, hu⟩ := Json.of_required?_eq_some hmx
      obtain ⟨w, hw⟩ := Json.of_required?_eq_some hhosts
      refine depth_toJson_le_iff.mpr ⟨Json.one_le_of_texts? hu, depth_hostsToJson_le hw, ?_⟩
      rintro p rfl
      obtain ⟨q, hq⟩ := Json.of_nullable?_eq_some hpolicy
      exact PolicyReport.depth_toJson_le hq

end DomainReport

inductive Stored where
  | verdict
  | mode
  | check
  | host
  | policy
  | domain
  deriving DecidableEq, Repr

namespace Stored

abbrev Value : Stored → Type
  | verdict => Verdict
  | mode => MtaSts.Mode
  | check => Check
  | host => HostReport
  | policy => PolicyReport
  | domain => DomainReport

def toJson : (k : Stored) → k.Value → Json
  | verdict => Verdict.toJson
  | mode => MtaSts.Mode.toJson
  | check => Check.toJson
  | host => HostReport.toJson
  | policy => PolicyReport.toJson
  | domain => DomainReport.toJson

def ofJson? : (k : Stored) → Nat → Json → Option k.Value
  | verdict => Verdict.ofJson?
  | mode => MtaSts.Mode.ofJson?
  | check => Check.ofJson?
  | host => HostReport.ofJson?
  | policy => PolicyReport.ofJson?
  | domain => DomainReport.ofJson?

def print (k : Stored) (x : k.Value) : String := (k.toJson x).print

def read? (k : Stored) (s : String) : Option k.Value :=
  (Json.parse? s).bind (k.ofJson? Json.nestingLimit)

example : host.read? = HostReport.read? ∧ domain.read? = DomainReport.read? := ⟨rfl, rfl⟩

theorem plain_toJson (k : Stored) (x : k.Value) : (k.toJson x).Plain := by
  cases k with
  | verdict => exact Verdict.plain_toJson x
  | mode => exact MtaSts.Mode.plain_toJson x
  | check => exact Check.plain_toJson x
  | host => exact HostReport.plain_toJson x
  | policy => exact PolicyReport.plain_toJson x
  | domain => exact DomainReport.plain_toJson x

theorem ofJson?_toJson (k : Stored) (x : k.Value) (n : Nat) :
    k.ofJson? n (k.toJson x) = Json.within n (k.toJson x) x := by
  cases k with
  | verdict => exact Verdict.ofJson?_toJson n x
  | mode => exact MtaSts.Mode.ofJson?_toJson n x
  | check => exact Check.ofJson?_toJson x n
  | host => exact HostReport.ofJson?_toJson x n
  | policy => exact PolicyReport.ofJson?_toJson x n
  | domain => exact DomainReport.ofJson?_toJson x n

theorem depth_toJson_le (k : Stored) {n : Nat} {v : Json} {x : k.Value}
    (h : k.ofJson? n v = some x) : (k.toJson x).depth ≤ n := by
  cases k with
  | verdict => exact Nat.zero_le n
  | mode => exact Nat.zero_le n
  | check => exact Check.depth_toJson_le h
  | host => exact HostReport.depth_toJson_le h
  | policy => exact PolicyReport.depth_toJson_le h
  | domain => exact DomainReport.depth_toJson_le h

theorem read?_print (k : Stored) (x : k.Value) :
    k.read? (k.print x) = Json.within Json.nestingLimit (k.toJson x) x := by
  rw [read?, print, (k.plain_toJson x).parse?_print, Option.bind_some, ofJson?_toJson]

theorem printed_value_is_read_back (k : Stored) (x : k.Value) :
    k.read? (k.print x) = if (k.toJson x).depth ≤ Json.nestingLimit then some x else none :=
  k.read?_print x

theorem tower_is_read_back_up_to_the_limit :
    let tower (height : Nat) : Check :=
      Nat.rec ⟨"\"top\"\n", .failure, [], []⟩ (fun _ below => ⟨"", .success, ["é"], [below]⟩) height
    let leap : Instant := ⟨253402300859, 1500000000, by decide, by decide, by decide, by decide⟩
    let report : HostReport := ⟨"a.test", "mx.a.test", .warning, [tower 62], leap⟩
    check.read? (check.print (tower 63)) = some (tower 63) ∧
      check.read? (check.print (tower 64)) = none ∧
      host.read? (host.print report) = some report := by
  intro tower leap report
  refine ⟨?_, ?_, ?_⟩
  · rw [printed_value_is_read_back check, if_pos (by decide +kernel)]
  · rw [printed_value_is_read_back check, if_neg (by decide +kernel)]
  · rw [printed_value_is_read_back host, if_pos (by decide +kernel)]

theorem read_value_prints_canonically (k : Stored) {s : String} {x : k.Value}
    (h : k.read? s = some x) :
    k.read? (k.print x) = some x ∧ (k.read? (k.print x)).map k.print = some (k.print x) := by
  obtain ⟨v, -, hv⟩ := Option.bind_eq_some_iff.mp h
  have hread : k.read? (k.print x) = some x := by
    rw [read?_print, Json.within, if_pos (k.depth_toJson_le hv)]
  exact ⟨hread, by rw [hread, Option.map_some]⟩

-- The text has its members in another order, one of them unknown and one empty, a word as an object
-- and a record as an array. It gets shorter.
set_option maxRecDepth 2000 in
theorem loosely_spelt_check_prints_canonically :
    ∃ x : Check,
      check.read? ("\x7b\"status\":\x7b\"failure\":null\x7d,\"x\":0,\"messages\":[]," ++
        "\"checks\":[[\"m\",\"success\"]],\"name\":\"n\"\x7d") = some x ∧
      check.print x =
        "\x7b\"name\":\"n\",\"status\":\"failure\"," ++
          "\"checks\":[\x7b\"name\":\"m\",\"status\":\"success\"\x7d]\x7d" ∧
      check.read? (check.print x) = some x ∧
      (check.read? (check.print x)).map check.print = some (check.print x) := by
  refine ⟨⟨"n", .failure, [], [⟨"m", .success, [], []⟩]⟩, ?hread, by cbv,
    read_value_prints_canonically check ?hread⟩
  cbv

end Stored

end MailAudit
