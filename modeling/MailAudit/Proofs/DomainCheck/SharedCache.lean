import MailAudit.Proofs.DomainCheck.Crew
import MailAudit.Proofs.DomainCheck.Tracking
import MailAudit.Proofs.Scans.Store

namespace MailAudit.DomainCheck

variable {s : Services} {checksOf : String → List Check} {w v : World}

/-- Probes make out their reports as they are asked to, and what they find depends on the host
alone. -/
def ProbesBy (s : Services) (checksOf : String → List Check) : Prop :=
  ∀ domain hostname now,
    ∃ t, (s.probe domain hostname now).1 = .observed domain hostname (checksOf hostname) t

/-- What can be read from the cache has the checks that a probe would find. -/
def Coherent (checksOf : String → List Check) (w : World) : Prop :=
  ∀ cache, w.cache = some cache → ∀ key r, cache.store.backing.get key = .ok (some r) →
    r.checks = checksOf key

def dueReport (checksOf : String → List Check) (domain hostname : String) : HostReport :=
  .observed domain hostname (checksOf hostname) default

theorem Coherent.of_cache_eq (hc : Coherent checksOf w) (h : v.cache = w.cache) :
    Coherent checksOf v := by
  intro cache hcache
  exact hc cache (h ▸ hcache)

theorem Coherent.readOnce (hc : Coherent checksOf w) (h : v.cache = w.cache.map readOnce) :
    Coherent checksOf v := by
  intro cache hcache
  rw [h] at hcache
  obtain ⟨before, hbefore, rfl⟩ := Option.map_eq_some_iff.mp hcache
  exact hc before hbefore

theorem Coherent.keep (hc : Coherent checksOf w) {hostname : String} {r : HostReport}
    (hr : r.checks = checksOf hostname) : Coherent checksOf (keep hostname r w) := by
  intro cache hcache key r' hget
  rw [(keep_spec hostname r w).2.1] at hcache
  obtain ⟨before, hbefore, rfl⟩ := Option.map_eq_some_iff.mp hcache
  have hbacking :
      (before.put hostname r).1.store.backing = (before.store.put hostname r).1.backing := rfl
  rw [hbacking] at hget
  rcases before.store.backing_put hostname r with hsame | hput
  · rw [hsame] at hget
    exact hc before hbefore key r' hget
  · rcases Scans.Backing.checks_of_get_put hput hget with ⟨rfl, hchecks⟩ | hget
    · exact hchecks.trans hr
    · exact hc before hbefore key r' hget

namespace Probing

variable {p q : Probing} {m : Move} {hosts : List String}

theorem provides_dueReport (hprobe : ProbesBy s checksOf) (hc : Coherent checksOf w) (p : Probing)
    (m : Move) :
    Provides s (Agrees (dueReport checksOf p.domain)) p w m where
  reused _ hostname r _ _ hr := by
    obtain ⟨cache, stored, hcache, hget, rfl⟩ := exists_of_reused hr
    rw [Agrees, HostReport.untimed_observed, hc cache hcache _ _ hget]
    rfl
  probed _ hostname _ _ _ := by
    obtain ⟨t, ht⟩ := hprobe p.domain hostname (s.clock w.ticks)
    rw [Agrees, (probed_spec s p.domain hostname w).1, ht]
    rfl

theorem coherent_step {domain : String} (hp : Places (Agrees (dueReport checksOf domain)) hosts p)
    (hc : Coherent checksOf w) (h : Step s p w m q v) : Coherent checksOf v := by
  cases h with
  | enter hp hroom => exact hc
  | reuse hi hr => exact hc.readOnce (cached_spec s p.domain _ w).2.2.1
  | start hi hr => exact hc.readOnce (cached_spec s p.domain _ w).2.2.1
  | land hi => exact hc.of_cache_eq (probed_spec s p.domain _ w).2.2.1
  | @keep i hostname r hi =>
      refine hc.keep ?_
      have hr := hp.kept _ (List.mem_of_getElem? hi) r rfl
      exact congrArg HostReport.checks hr

end Probing

namespace Inquiry

variable {domain : String} {expected : List String} {q r : Inquiry} {m : Move} {ms : List Move}

theorem sound_step (hprobe : ProbesBy s checksOf) (hpolicy : TimelessPolicy s)
    (hs : Sound s (dueReport checksOf domain) domain expected q) (hc : Coherent checksOf w)
    (h : Step s q w m r v) :
    Sound s (dueReport checksOf domain) domain expected r ∧ Coherent checksOf v := by
  cases h with
  | settle hopened hraised hcache hticks =>
      obtain ⟨rfl, rfl⟩ := hs
      refine ⟨hopened.untimed_eq _, hc.of_cache_eq ?_⟩
      rw [(finish_spec _ _).2.1, hcache]
  | embark hsome hchosen =>
      obtain ⟨rfl, rfl⟩ := hs
      exact ⟨sound_embark _ hsome hchosen, hc.of_cache_eq (mxHosts_spec s _ w).2.2.1⟩
  | scan hstep =>
      obtain ⟨hall, hhosts, hsome, hchosen, rfl, hp⟩ := hs
      have hprobing := Probing.step_of_step? hstep
      exact ⟨⟨hall, hhosts, hsome, hchosen, Probing.domain_step hprobing,
        hp.step (Probing.provides_dueReport hprobe hc _ _) hprobing⟩,
        Probing.coherent_step hp hc hprobing⟩
  | @conclude all hosts p w hdone =>
      refine ⟨sound_conclude hpolicy hs hdone w, hc.of_cache_eq ?_⟩
      rw [(finish_spec _ _).2.1, (conclude_spec s all hosts p w).2.2.2.1]

theorem Run.sound (hprobe : ProbesBy s checksOf) (hpolicy : TimelessPolicy s) {q₀ : Inquiry}
    {w₀ : World} (hs : Sound s (dueReport checksOf domain) domain expected q₀)
    (hc : Coherent checksOf w₀) (h : Run s q₀ w₀ ms q w) :
    Sound s (dueReport checksOf domain) domain expected q ∧ Coherent checksOf w := by
  induction h with
  | refl => exact ⟨hs, hc⟩
  | tail _ hstep _ ih => exact sound_step hprobe hpolicy ih.1 ih.2 (step_of_step? hstep)

end Inquiry

theorem untimed_run (hprobe : ProbesBy s checksOf) (hpolicy : TimelessPolicy s)
    (hc : Coherent checksOf w) (domain : String) (expected : List String) :
    (run s domain expected w).1.report.untimed =
      verdictBy s (dueReport checksOf (HostName.normalize domain)) (HostName.normalize domain)
        expected := by
  obtain ⟨ms, hrun⟩ := Inquiry.exists_run s domain expected w
  have hstart : Inquiry.Sound s (dueReport checksOf (HostName.normalize domain))
      (HostName.normalize domain) expected (.asked domain expected) := ⟨rfl, rfl⟩
  exact (hrun.sound hprobe hpolicy hstart hc).1

namespace Crew

variable {questions : List (String × List String)} {c c' : Crew} {i : Nat} {m : Inquiry.Move}
  {ms : List (Nat × Inquiry.Move)}

structure Sound (s : Services) (checksOf : String → List Check)
    (questions : List (String × List String)) (c : Crew) : Prop where
  length_eq : c.inquiries.length = questions.length
  inquiries : ∀ (i : Nat) domain expected q, questions[i]? = some (domain, expected) →
    c.inquiries[i]? = some q →
      Inquiry.Sound s (dueReport checksOf (HostName.normalize domain)) (HostName.normalize domain)
        expected q
  coherent : Coherent checksOf c.world

theorem sound_start {w₀ : World} (hc : Coherent checksOf w₀) :
    Sound s checksOf questions (start questions w₀) where
  length_eq := List.length_map _
  inquiries i domain expected q hquestion hq := by
    simp only [start, List.getElem?_map, hquestion, Option.map_some, Option.some.injEq] at hq
    subst hq
    exact ⟨rfl, rfl⟩
  coherent := hc

theorem sound_step (hprobe : ProbesBy s checksOf) (hpolicy : TimelessPolicy s)
    (hs : Sound s checksOf questions c) (h : c.step? s i m = some c') :
    Sound s checksOf questions c' := by
  obtain ⟨q, r, v, hq, hstep, rfl⟩ := exists_of_step? h
  have hi : i < c.inquiries.length := (List.getElem?_eq_some_iff.mp hq).1
  obtain ⟨⟨domain, expected⟩, hquestion⟩ : ∃ question, questions[i]? = some question :=
    ⟨_, List.getElem?_eq_getElem (hs.length_eq ▸ hi)⟩
  have hnext := Inquiry.sound_step hprobe hpolicy (hs.inquiries i domain expected q hquestion hq)
    hs.coherent (Inquiry.step_of_step? hstep)
  refine ⟨by rw [List.length_set, hs.length_eq], ?_, hnext.2⟩
  intro j domain' expected' q' hquestion' hq'
  by_cases hij : i = j
  · subst hij
    rw [List.getElem?_set_self hi, Option.some.injEq] at hq'
    rw [hquestion, Option.some.injEq, Prod.mk.injEq] at hquestion'
    obtain ⟨rfl, rfl⟩ := hquestion'
    exact hq' ▸ hnext.1
  · rw [List.getElem?_set_ne hij] at hq'
    exact hs.inquiries j domain' expected' q' hquestion' hq'

theorem Run.sound (hprobe : ProbesBy s checksOf) (hpolicy : TimelessPolicy s) {w₀ : World}
    (hc : Coherent checksOf w₀) (h : Run s (start questions w₀) ms c) :
    Sound s checksOf questions c := by
  induction h with
  | refl => exact sound_start hc
  | tail _ hstep ih => exact sound_step hprobe hpolicy ih hstep

theorem work_start (questions : List (String × List String)) (w₀ : World) :
    (start questions w₀).work s = sumOf (questions.map fun question =>
      4 * (chosen s (HostName.normalize question.1) question.2).length + 2) := by
  simp only [work, start, List.map_map]
  rfl

theorem shared_cache_keeps_verdicts (hprobe : ProbesBy s checksOf) (hpolicy : TimelessPolicy s)
    {w₀ : World} (hstore : Coherent checksOf w₀) (h : Run s (start questions w₀) ms c) :
    ms.length ≤ sumOf (questions.map fun question =>
      4 * (chosen s (HostName.normalize question.1) question.2).length + 2) ∧
    (c.Idle s ↔ ∀ q ∈ c.inquiries, q.isAnswered = true) ∧
    c.inquiries.length = questions.length ∧
    ∀ (i : Nat) domain expected result, questions[i]? = some (domain, expected) →
      c.inquiries[i]? = some (.answered result) →
      ∀ w : World, w.cache = none →
        result.report.untimed = (run s domain expected w).1.report.untimed := by
  have hs := h.sound hprobe hpolicy hstore
  refine ⟨?_, idle_iff, hs.length_eq, ?_⟩
  · have hbound := h.length_add_work_le
    rw [work_start] at hbound
    omega
  · intro i domain expected result hquestion hresult w hw
    have huncached : Coherent checksOf w := by
      intro cache hcache
      rw [hw] at hcache
      cases hcache
    exact (hs.inquiries i domain expected _ hquestion hresult).trans
      (untimed_run hprobe hpolicy huncached domain expected).symm

theorem second_domain_reuses_the_scan_of_the_first :
    ∃ (s : Services) (checksOf : String → List Check) (w₀ : World) (ms : List (Nat × Inquiry.Move))
      (c : Crew) (first second : Result),
      ProbesBy s checksOf ∧ TimelessPolicy s ∧ Coherent checksOf w₀ ∧
      Run s (start [("a.example", []), ("b.example", [])] w₀) ms c ∧
      c.inquiries = [.answered first, .answered second] ∧ second.probes = [] ∧
      second.report.untimed = (run s "b.example" [] {}).1.report.untimed := by
  let s : Services :=
    { clock := fun _ => default
      mx := fun _ => (.ok ["mx.example"], [])
      probe := fun domain hostname now => (.observed domain hostname [.pass hostname] now, [])
      delay := fun _ => 0
      policy := fun _ _ => (none, [])
      concurrency := 1 }
  let w₀ : World := { cache := some ⟨.inMemory, ⟨0⟩⟩ }
  have hprobe : ProbesBy s fun hostname => [.pass hostname] := fun _ _ now => ⟨now, rfl⟩
  have hpolicy : TimelessPolicy s := fun _ _ _ _ => rfl
  have hstore : Coherent (fun hostname => [.pass hostname]) w₀ := by
    intro cache hcache key r hget
    cases hcache
    cases hget
  have hfollow : (start [("a.example", []), ("b.example", [])] w₀).follow? s
      [(0, .prepare), (0, .scan .enter), (0, .scan (.look 0)), (0, .scan (.land 0)),
        (0, .scan (.keep 0)), (0, .conclude), (1, .prepare), (1, .scan .enter),
        (1, .scan (.look 0)),
        (1, .conclude)] = some ⟨[.answered _, .answered _], _⟩ := rfl
  have hrun := run_of_follow? hfollow
  refine ⟨s, _, w₀, _, _, _, _, hprobe, hpolicy, hstore, hrun, rfl, rfl, ?_⟩
  exact (shared_cache_keeps_verdicts hprobe hpolicy hstore hrun).2.2.2 1 _ _ _ rfl rfl {} rfl

end Crew

end MailAudit.DomainCheck
