import MailAudit.Proofs.HostName
import MailAudit.Proofs.Keyed
import MailAudit.Proofs.Revalidation.Pass

namespace MailAudit.Revalidation

open HostName (EndsInBlank)

namespace Store

variable {σ : Type} {pairs : List (String × List String)} {domain : String} {hosts : List String}

def ownHosts? (pairs : List (String × List String)) (domain : String) : Option (List String) :=
  (pairs.reverse.find? fun pair => HostName.normalize pair.1 == domain).map Prod.snd

theorem ownHosts?_concat (pairs : List (String × List String)) (pair : String × List String)
    (domain : String) :
    ownHosts? (pairs ++ [pair]) domain =
      if domain = HostName.normalize pair.1 then some pair.2 else ownHosts? pairs domain := by
  rw [ownHosts?, ownHosts?, List.reverse_concat, List.find?_cons]
  by_cases h : domain = HostName.normalize pair.1
  · rw [if_pos h, beq_iff_eq.mpr h.symm]
    rfl
  · rw [if_neg h, beq_false_of_ne (Ne.symm h)]

theorem get?_ofList (pairs : List (String × List String)) (domain : String) :
    (ofList pairs).hosts.get? domain = ownHosts? pairs domain := by
  induction pairs using List.reverseRecOn with
  | nil => rfl
  | append_singleton pairs pair ih =>
      have hput : (ofList (pairs ++ [pair])).hosts =
          (ofList pairs).hosts.insert (HostName.normalize pair.1) pair.2 := by
        simp only [ofList, Keyed.ofList, List.map_append, List.foldl_append]
        rfl
      rw [hput, Keyed.get?_insert, ih, ownHosts?_concat]

theorem mem_domains_iff :
    domain ∈ (ofList pairs).domains ↔ ∃ hosts, ownHosts? pairs domain = some hosts := by
  rw [domains, Keyed.mem_keys_iff]
  simp only [get?_ofList]

theorem ownHosts?_eq_some_iff :
    (∃ hosts, ownHosts? pairs domain = some hosts) ↔
    ∃ pair ∈ pairs, HostName.normalize pair.1 = domain := by
  rw [← Option.isSome_iff_exists, ownHosts?, Option.isSome_map, List.find?_isSome]
  simp only [List.mem_reverse, beq_iff_eq]

theorem hostsOf_eq_ok_iff :
    (ofList pairs).hostsOf domain = .ok hosts ↔
    ownHosts? pairs (HostName.normalize domain) = some hosts := by
  rw [hostsOf, get?_ofList]
  cases ownHosts? pairs (HostName.normalize domain) with
  | none => exact iff_of_false nofun nofun
  | some own =>
      constructor
      · intro h
        rw [Except.ok.inj h]
      · intro h
        rw [Option.some.inj h]

theorem normalize_of_mem_domains (hmem : domain ∈ (ofList pairs).domains)
    (hblank : ¬ EndsInBlank domain) :
    HostName.normalize domain = domain := by
  obtain ⟨pair, -, rfl⟩ := ownHosts?_eq_some_iff.mp (mem_domains_iff.mp hmem)
  exact HostName.normalize_normalize_iff.mpr hblank

structure Revalidated (pairs : List (String × List String))
    (examined : List (String × List String)) : Prop where
  lookedUp : ∀ domain ∈ (ofList pairs).domains,
    ∃ hosts, ownHosts? pairs domain = some hosts ∧ (ofList pairs).hostsOf domain = .ok hosts
  each : examined.map Prod.fst = (ofList pairs).domains
  own : ∀ check ∈ examined, ownHosts? pairs check.1 = some check.2

def checkOf? (s : Store) (domain : String) : Option (String × List String) :=
  (s.hostsOf domain).toOption.map fun hosts => (domain, hosts)

theorem examined_pass {s : Store} {v : Validator σ} (hsource : v.source = s.source) (duty : Duty σ)
    (world : σ) :
    (v.pass duty none { world }).examined = s.domains.filterMap s.checkOf? := by
  have hlisted : (v.source.domains world).answer = .ok s.domains := by
    rw [hsource]
    rfl
  have hcheck : Round.check? v = s.checkOf? ∘ Round.domain := by
    funext r
    rw [Round.check?, Round.found, hsource]
    rfl
  have haccounts := Validator.accounts_pass duty hlisted
  rw [haccounts.examined, hcheck, ← List.filterMap_map, haccounts.turns]

theorem revalidated_of_lookedUp {v : Validator σ} (hsource : v.source = (ofList pairs).source)
    (hlooked : ∀ domain ∈ (ofList pairs).domains,
      ∃ hosts, ownHosts? pairs domain = some hosts ∧ (ofList pairs).hostsOf domain = .ok hosts)
    (duty : Duty σ) (world : σ) : Revalidated pairs (v.pass duty none { world }).examined := by
  have hcheck (domain : String) (hmem : domain ∈ (ofList pairs).domains) :
      ∃ hosts, ownHosts? pairs domain = some hosts ∧
        (ofList pairs).checkOf? domain = some (domain, hosts) := by
    obtain ⟨hosts, hown, hfound⟩ := hlooked domain hmem
    refine ⟨hosts, hown, ?_⟩
    rw [checkOf?, hfound]
    rfl
  rw [examined_pass hsource]
  refine ⟨hlooked, ?_, ?_⟩
  · have hname : ∀ domain ∈ (ofList pairs).domains,
        ((ofList pairs).checkOf? domain).map Prod.fst = some domain := by
      intro domain hmem
      obtain ⟨hosts, -, hsome⟩ := hcheck domain hmem
      rw [hsome]
      rfl
    rw [List.map_filterMap, List.filterMap_congr hname, List.filterMap_some]
  · intro check hmem
    obtain ⟨domain, hdomain, hsome⟩ := List.mem_filterMap.mp hmem
    obtain ⟨hosts, hown, hsome'⟩ := hcheck domain hdomain
    obtain rfl : (domain, hosts) = check := Option.some.inj (hsome'.symm.trans hsome)
    exact hown

/-- The domains listed are the normalized ones of the pairs, each once. They are all revalidated
exactly if each one that ends in a blank has the hosts of the domain that normalizing leaves of
it. -/
theorem listed_domains_are_revalidated_iff (pairs : List (String × List String)) (name : String)
    (interval : Duration) (duty : Duty σ) (world : σ) :
    (ofList pairs).domains.Nodup ∧
    (∀ domain, domain ∈ (ofList pairs).domains ↔
      ∃ pair ∈ pairs, HostName.normalize pair.1 = domain) ∧
    (Revalidated pairs
        ((Validator.of name interval (ofList pairs).source).pass duty none { world }).examined ↔
      ∀ domain ∈ (ofList pairs).domains, EndsInBlank domain →
        ownHosts? pairs (HostName.normalize domain) = ownHosts? pairs domain) := by
  refine ⟨Keyed.nodup_keys _, fun domain => mem_domains_iff.trans ownHosts?_eq_some_iff, ?_, ?_⟩
  · intro hvalid domain hmem _
    obtain ⟨hosts, hown, hfound⟩ := hvalid.lookedUp domain hmem
    rw [hown, hostsOf_eq_ok_iff.mp hfound]
  · intro hsame
    -- A pass checks what it finds, so that it is enough to find every listed domain.
    refine revalidated_of_lookedUp rfl (fun domain hmem => ?_) duty world
    obtain ⟨hosts, hown⟩ := mem_domains_iff.mp hmem
    refine ⟨hosts, hown, hostsOf_eq_ok_iff.mpr ?_⟩
    by_cases hblank : EndsInBlank domain
    · rw [hsame domain hmem hblank, hown]
    · rw [normalize_of_mem_domains hmem hblank, hown]

theorem blank_before_dot_is_never_checked :
    let pairs := [("a.test. .", ["mx.a.test"])]
    let duty : Duty Unit :=
      ⟨fun domain _ _ => ⟨.withoutMailService domain "No MX records found" default,
        .ofMilliseconds 0, ()⟩, fun _ _ _ => []⟩
    let validator := Validator.of "policies" leastInterval (ofList pairs).source
    (ofList pairs).domains = ["a.test. "] ∧ ownHosts? pairs "a.test. " = some ["mx.a.test"] ∧
      (ofList pairs).hostsOf "a.test. " = .error (.unavailable "Unknown domain a.test. ") ∧
      (validator.pass duty none { world := () }).examined = [] :=
  ⟨by decide +kernel, by decide +kernel, by decide +kernel, by decide +kernel⟩

end Store

end MailAudit.Revalidation
