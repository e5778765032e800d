import MailAudit.Proofs.DomainCheck.Verdict

namespace MailAudit.DomainCheck

variable {s : Services}

namespace Probing

variable {p q : Probing} {w v : World} {m : Move}

inductive Step (s : Services) (p : Probing) (w : World) : Move → Probing → World → Prop
  | enter {hostname pending} (hp : p.pending = hostname :: pending)
      (hroom : p.scans.length < max 1 s.concurrency) :
      Step s p w .enter { p with pending, scans := p.scans ++ [⟨hostname, .looking⟩] } w
  | reuse {i hostname r} (hi : p.scans[i]? = some ⟨hostname, .looking⟩)
      (hr : (find s.clock hostname w).reused p.domain hostname = some r) :
      Step s p w (.look i)
        { p with scans := p.scans.eraseIdx i, reports := (hostname, r) :: p.reports }
        (cached s p.domain hostname w).2
  | start {i hostname mostInFlight} (hi : p.scans[i]? = some ⟨hostname, .looking⟩)
      (hr : (find s.clock hostname w).reused p.domain hostname = none) :
      Step s p w (.look i)
        { p with
          scans := p.scans.set i ⟨hostname, .probing (p.time + s.delay hostname)⟩
          probes := ⟨hostname, p.time, p.time + s.delay hostname⟩ :: p.probes
          mostInFlight }
        (cached s p.domain hostname w).2
  | land {i hostname endsAt} (hi : p.scans[i]? = some ⟨hostname, .probing endsAt⟩) :
      Step s p w (.land i)
        { p with
          time := max p.time endsAt
          scans := p.scans.set i ⟨hostname, .keeping (probed s p.domain hostname w).1⟩ }
        (probed s p.domain hostname w).2
  | keep {i hostname r} (hi : p.scans[i]? = some ⟨hostname, .keeping r⟩) :
      Step s p w (.keep i)
        { p with scans := p.scans.eraseIdx i, reports := (hostname, r) :: p.reports }
        (DomainCheck.keep hostname r w)

theorem step_of_look? {i : Nat} (h : look? s p w i = some (q, v)) : Step s p w (.look i) q v := by
  simp only [look?] at h
  split at h
  · rename_i hostname hi
    have hspec := (cached_spec s p.domain hostname w).1
    split at h
    · rename_i r u hcached
      rw [hcached] at hspec
      have hu : u = (cached s p.domain hostname w).2 := by rw [hcached]
      cases h
      exact hu ▸ .reuse hi hspec.symm
    · rename_i u hcached
      rw [hcached] at hspec
      have hu : u = (cached s p.domain hostname w).2 := by rw [hcached]
      cases h
      exact hu ▸ .start hi hspec.symm
  · cases h

theorem step_of_step? (h : p.step? s w m = some (q, v)) : Step s p w m q v := by
  cases m with
  | enter =>
      obtain ⟨p', hp', heq⟩ := Option.map_eq_some_iff.mp h
      cases heq
      simp only [enter?] at hp'
      split at hp'
      · cases hp'
      · rename_i hostname pending hp
        split at hp'
        · rename_i hroom
          cases hp'
          exact .enter hp hroom
        · cases hp'
  | look i => exact step_of_look? h
  | land i =>
      simp only [step?, land?] at h
      split at h
      · rename_i hi
        cases h
        exact .land hi
      · cases h
  | keep i =>
      simp only [step?, keep?] at h
      split at h
      · rename_i hi
        cases h
        exact .keep hi
      · cases h

theorem ticks_step (h : Step s p w m q v) : w.ticks ≤ v.ticks := by
  cases h with
  | enter hp hroom => exact Nat.le_refl _
  | reuse hi hr =>
      rw [(cached_spec s _ _ w).2.2.2]
      exact Nat.le_add_right _ _
  | start hi hr =>
      rw [(cached_spec s _ _ w).2.2.2]
      exact Nat.le_add_right _ _
  | land hi =>
      rw [(probed_spec s _ _ w).2.2.2]
      exact Nat.le_succ _
  | keep hi => rw [(keep_spec _ _ w).2.2]

theorem isDone_iff : p.isDone = true ↔ p.pending = [] ∧ p.scans = [] := by
  rw [isDone, Bool.and_eq_true, List.isEmpty_iff, List.isEmpty_iff]

def Settled (p : Probing) : Prop := ∀ c ∈ p.scans, c.stage ≠ .looking

theorem isSome_look? {i : Nat} {hostname : String} (hi : p.scans[i]? = some ⟨hostname, .looking⟩) :
    (p.step? s w (.look i)).isSome = true := by
  simp only [step?, look?, hi]
  split <;> rfl

theorem exists_move_of_scan {i : Nat} {c : Scan} (hi : p.scans[i]? = some c) :
    ∃ m, m ≠ .enter ∧ m ∈ p.moves ∧ (p.step? s w m).isSome = true := by
  have hlt : i < p.scans.length := (List.getElem?_eq_some_iff.mp hi).1
  obtain ⟨hostname, stage⟩ := c
  cases stage with
  | looking => exact ⟨.look i, by simp, by simp [moves, hlt], isSome_look? hi⟩
  | probing endsAt =>
      refine ⟨.land i, by simp, ?_, by simp [step?, land?, hi]⟩
      have hmem : i ∈ p.ending := List.mem_mergeSort.mpr (List.mem_range.mpr hlt)
      simp [moves, hmem]
  | keeping r => exact ⟨.keep i, by simp, by simp [moves, hlt], by simp [step?, keep?, hi]⟩

theorem exists_move_of_not_isDone (h : p.isDone = false) :
    ∃ m, m ∈ p.moves ∧ (p.step? s w m).isSome = true ∧ (m = .enter → p.Settled) := by
  cases hscans : p.scans with
  | cons c rest =>
      obtain ⟨m, hne, hm, hsome⟩ :=
        exists_move_of_scan (s := s) (w := w) (p := p) (i := 0) (by rw [hscans]; rfl)
      exact ⟨m, hm, hsome, fun heq => absurd heq hne⟩
  | nil =>
      cases hp : p.pending with
      | nil => simp [isDone, hscans, hp] at h
      | cons hostname pending =>
          have hroom : p.scans.length < max 1 s.concurrency := by
            rw [hscans, List.length_nil]
            omega
          refine ⟨.enter, by simp [moves], by simp [step?, enter?, hp, hroom], fun _ c hc => ?_⟩
          rw [hscans] at hc
          exact (List.not_mem_nil hc).elim

theorem isDone_of_advance?_eq_none (h : p.advance? s w = none) : p.isDone = true := by
  by_contra hdone
  obtain ⟨m, hm, hsome, -⟩ :=
    exists_move_of_not_isDone (s := s) (w := w) (Bool.eq_false_iff.mpr hdone)
  rw [List.findSome?_eq_none_iff.mp h m hm] at hsome
  cases hsome

/-- The program lets a host enter only once all before it have been looked up. -/
theorem step_of_advance? (h : p.advance? s w = some (q, v)) :
    ∃ m, p.step? s w m = some (q, v) ∧ (m = .enter → p.Settled) := by
  have hsplit : p.advance? s w =
      (((List.range p.scans.length).flatMap fun i => [.keep i, .look i]).findSome? (p.step? s w)).or
        (((p.ending.filter fun i => p.endOf i ≤ p.time).map Move.land ++
          .enter :: p.ending.map Move.land).findSome? (p.step? s w)) := by
    rw [advance?, moves, List.append_assoc, List.findSome?_append]
  rw [hsplit] at h
  cases hfirst : ((List.range p.scans.length).flatMap fun i => [Move.keep i, .look i]).findSome?
      (p.step? s w) with
  | some next =>
      rw [hfirst] at h
      cases h
      obtain ⟨m, hm, hstep⟩ := List.exists_of_findSome?_eq_some hfirst
      refine ⟨m, hstep, ?_⟩
      rintro rfl
      simp at hm
  | none =>
      rw [hfirst] at h
      obtain ⟨m, -, hstep⟩ := List.exists_of_findSome?_eq_some h
      refine ⟨m, hstep, fun _ c hc hlooking => ?_⟩
      obtain ⟨i, hi⟩ := List.mem_iff_getElem?.mp hc
      obtain ⟨hostname, stage⟩ := c
      obtain rfl : stage = .looking := hlooking
      have hlt : i < p.scans.length := (List.getElem?_eq_some_iff.mp hi).1
      have hnone := List.findSome?_eq_none_iff.mp hfirst (.look i) (by simp [hlt])
      have hsome := isSome_look? (s := s) (w := w) hi
      rw [hnone] at hsome
      cases hsome

end Probing

namespace Inquiry

inductive Step (s : Services) : Inquiry → World → Move → Inquiry → World → Prop
  | settle {domain expected w report u}
      (hopened : Opened s (HostName.normalize domain) expected (.settled report))
      (hraised : u.raised = openingCounters s (HostName.normalize domain) + w.raised)
      (hcache : u.cache = w.cache) (hticks : w.ticks ≤ u.ticks) :
      Step s (.asked domain expected) w .prepare (.answered { report }) (finish { report } u)
  | embark {domain expected w} (hsome : (mxNames s (HostName.normalize domain)).isEmpty = false)
      (hchosen : (chosen s (HostName.normalize domain) expected).isEmpty = false) :
      Step s (.asked domain expected) w .prepare
        (.scanning (mxNames s (HostName.normalize domain))
          (chosen s (HostName.normalize domain) expected)
          { domain := HostName.normalize domain,
            pending := chosen s (HostName.normalize domain) expected })
        (mxHosts s (HostName.normalize domain) w).2
  | scan {hosts preferred p w m p' v} (h : p.step? s w m = some (p', v)) :
      Step s (.scanning hosts preferred p) w (.scan m) (.scanning hosts preferred p') v
  | conclude {hosts preferred p w} (h : p.isDone = true) :
      Step s (.scanning hosts preferred p) w .conclude
        (.answered (DomainCheck.conclude s hosts preferred p w).1)
        (finish (DomainCheck.conclude s hosts preferred p w).1
          (DomainCheck.conclude s hosts preferred p w).2)

def Settled : Inquiry → Prop
  | scanning _ _ p => p.Settled
  | _ => True

/-- The moves of one inquiry in their order. Looks into the cache take no time: a host enters only
once all before it have been looked up. -/
inductive Run (s : Services) (q₀ : Inquiry) (w₀ : World) : List Move → Inquiry → World → Prop
  | refl : Run s q₀ w₀ [] q₀ w₀
  | tail {ms q w m r v} : Run s q₀ w₀ ms q w → q.step? s w m = some (r, v) →
      (m = .scan .enter → q.Settled) → Run s q₀ w₀ (ms ++ [m]) r v

variable {q r : Inquiry} {w v : World} {m : Move} {ms : List Move}

theorem step_of_prepare {domain : String} {expected : List String}
    (h : prepare s domain expected w = (r, v)) :
    Step s (.asked domain expected) w .prepare r v := by
  obtain ⟨hopened, hraised, hcache, hticks⟩ := prepare_spec s (HostName.normalize domain) expected w
  simp only [prepare] at h
  split at h <;> rename_i heq <;> rw [heq] at hopened hraised hcache hticks
  · cases h
    exact .settle hopened hraised hcache hticks
  · cases h
    obtain ⟨rfl, rfl, hsome, hchosen⟩ := hopened.hosts_eq
    exact world_of_prepare heq ▸ .embark hsome hchosen

theorem step_of_step? (h : q.step? s w m = some (r, v)) : Step s q w m r v := by
  simp only [step?] at h
  split at h
  · exact step_of_prepare (Option.some.inj h)
  · obtain ⟨⟨p', v'⟩, hstep, heq⟩ := Option.map_eq_some_iff.mp h
    cases heq
    exact .scan hstep
  · split at h
    · rename_i hdone
      simp only [Option.some.injEq] at h
      have hr : r = _ := (congrArg Prod.fst h).symm
      have hv : v = _ := (congrArg Prod.snd h).symm
      exact hr ▸ hv ▸ .conclude hdone
    · cases h
  · cases h

theorem ticks_step (h : Step s q w m r v) : w.ticks ≤ v.ticks := by
  cases h with
  | settle hopened hraised hcache hticks =>
      rw [(finish_spec _ _).2.2]
      exact hticks
  | embark hsome hchosen => exact (mxHosts_spec s _ w).2.2.2.ge
  | scan hstep => exact Probing.ticks_step (Probing.step_of_step? hstep)
  | @conclude all hosts p w hdone =>
      rw [(finish_spec _ _).2.2, (conclude_spec s all hosts p w).2.2.2.2]
      exact Nat.le_succ _

theorem exists_run_of_scanning {q₀ : Inquiry} {w₀ : World} {hosts preferred : List String}
    {p : Probing} (h : Run s q₀ w₀ ms (.scanning hosts preferred p) w) :
    ∃ ms', Run s q₀ w₀ ms' (.scanning hosts preferred (p.run s w).1) (p.run s w).2 ∧
      (p.run s w).1.isDone = true := by
  -- As the run itself, on the work that is left.
  induction hn : p.work using Nat.strong_induction_on generalizing p w ms with
  | _ n ih =>
      rw [Probing.run]
      split
      · rename_i hnone
        exact ⟨ms, h, Probing.isDone_of_advance?_eq_none hnone⟩
      · rename_i next hnext
        obtain ⟨m, hstep, hsettled⟩ := Probing.step_of_advance? hnext
        refine ih next.1.work (hn ▸ Probing.work_lt_of_step? hstep)
          (h.tail (m := .scan m) ?_ ?_) rfl
        · simp [step?, hstep]
        · rintro ⟨⟩
          exact hsettled rfl

theorem exists_run (s : Services) (domain : String) (expected : List String) (w : World) :
    ∃ ms, Run s (.asked domain expected) w ms (.answered (DomainCheck.run s domain expected w).1)
      (DomainCheck.run s domain expected w).2 := by
  have hfirst : Run s (.asked domain expected) w [.prepare] (prepare s domain expected w).1
      (prepare s domain expected w).2 := @Run.tail s _ _ [] _ _ .prepare _ _ .refl rfl (by simp)
  simp only [DomainCheck.run]
  simp only [prepare] at hfirst
  split
  · rename_i report u hprepare
    rw [hprepare] at hfirst
    exact ⟨_, hfirst⟩
  · rename_i all preferred u hprepare
    rw [hprepare] at hfirst
    obtain ⟨ms, hrun, hdone⟩ := exists_run_of_scanning hfirst
    exact ⟨_, hrun.tail (m := .conclude) (by simp [step?, hdone, conclude]) (by simp)⟩

end Inquiry

end MailAudit.DomainCheck
