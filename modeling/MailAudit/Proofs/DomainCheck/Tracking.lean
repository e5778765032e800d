import MailAudit.Proofs.DomainCheck.Step

namespace MailAudit.DomainCheck

variable {s : Services} {canonical : String → HostReport} {hosts : List String}

def TimelessPolicy (s : Services) : Prop :=
  ∀ domain (reports reports' : Keyed HostReport),
    reports.map HostReport.untimed = reports'.map HostReport.untimed →
      (s.policy domain reports).1 = (s.policy domain reports').1

namespace Probing

variable {p q : Probing} {w v : World} {m : Move}

/-- Each host is in one place, and what has been made out for it is due to it. -/
structure Places (due : String → HostReport → Prop) (hosts : List String) (p : Probing) : Prop where
  perm : (p.pending ++ (p.scans.map (·.hostname) ++ p.reports.map Prod.fst)).Perm hosts
  reports : ∀ e ∈ p.reports, due e.1 e.2
  kept : ∀ c ∈ p.scans, ∀ r, c.stage = .keeping r → due c.hostname r

/-- What a step may rely on: a report that is reused is due, and so is that of a probe. -/
structure Provides (s : Services) (due : String → HostReport → Prop) (p : Probing) (w : World)
    (m : Move) : Prop where
  reused : ∀ i hostname r, m = .look i → p.scans[i]? = some ⟨hostname, .looking⟩ →
    (find s.clock hostname w).reused p.domain hostname = some r → due hostname r
  probed : ∀ i hostname endsAt, m = .land i → p.scans[i]? = some ⟨hostname, .probing endsAt⟩ →
    due hostname (probed s p.domain hostname w).1

variable {due : String → HostReport → Prop}

theorem map_hostname_set {scans : List Scan} {i : Nat} {hostname : String} {stage : Stage}
    (hi : scans[i]? = some ⟨hostname, stage⟩) (stage' : Stage) :
    (scans.set i ⟨hostname, stage'⟩).map (·.hostname) = scans.map (·.hostname) := by
  have hname : (scans.map (·.hostname))[i]? = some hostname := by simp [hi]
  obtain ⟨hlt, hget⟩ := List.getElem?_eq_some_iff.mp hname
  rw [List.map_set, ← hget, List.set_getElem_self]

theorem map_hostname_eraseIdx {scans : List Scan} {i : Nat} {hostname : String} {stage : Stage}
    (hi : scans[i]? = some ⟨hostname, stage⟩) :
    (hostname :: (scans.eraseIdx i).map (·.hostname)).Perm (scans.map (·.hostname)) := by
  obtain ⟨hlt, hget⟩ := List.getElem?_eq_some_iff.mp hi
  have hperm := (List.getElem_cons_eraseIdx_perm hlt).map (·.hostname)
  rwa [List.map_cons, hget] at hperm

theorem Places.report (hp : Places due hosts p) {i : Nat} {hostname : String} {stage : Stage}
    {r : HostReport} (hi : p.scans[i]? = some ⟨hostname, stage⟩) (hr : due hostname r) :
    Places due hosts { p with
      scans := p.scans.eraseIdx i, reports := (hostname, r) :: p.reports } where
  perm := by
    refine List.Perm.trans (.append_left _ ?_) hp.perm
    refine List.Perm.trans ?_ ((map_hostname_eraseIdx hi).append_right _)
    exact List.perm_middle
  reports := by
    intro e he
    rcases List.mem_cons.mp he with rfl | he
    · exact hr
    · exact hp.reports e he
  kept c hc := hp.kept c (List.mem_of_mem_eraseIdx hc)

theorem Places.set (hp : Places due hosts p) {i : Nat} {hostname : String} {stage stage' : Stage}
    (hi : p.scans[i]? = some ⟨hostname, stage⟩) (hkept : ∀ r, stage' = .keeping r → due hostname r)
    {p' : Probing} (hpending : p'.pending = p.pending)
    (hscans : p'.scans = p.scans.set i ⟨hostname, stage'⟩) (hreports : p'.reports = p.reports) :
    Places due hosts p' where
  perm := by
    rw [hpending, hscans, hreports, map_hostname_set hi]
    exact hp.perm
  reports := by
    rw [hreports]
    exact hp.reports
  kept := by
    intro c hc r hr
    rw [hscans] at hc
    rcases List.mem_or_eq_of_mem_set hc with hc | rfl
    · exact hp.kept c hc r hr
    · exact hkept r hr

theorem Places.step (hp : Places due hosts p) (hd : Provides s due p w m) (h : Step s p w m q v) :
    Places due hosts q := by
  cases h with
  | @enter hostname pending hpending hroom =>
      refine ⟨?_, hp.reports, ?_⟩
      · have hperm := hp.perm
        rw [hpending] at hperm
        refine List.Perm.trans ?_ hperm
        simp only [List.map_append, List.map_cons, List.map_nil, List.append_assoc,
          List.cons_append, List.nil_append]
        rw [← List.append_assoc]
        exact List.perm_middle.trans (by rw [List.append_assoc])
      · intro c hc r hr
        rcases List.mem_append.mp hc with hc | hc
        · exact hp.kept c hc r hr
        · rw [List.mem_singleton.mp hc] at hr
          cases hr
  | reuse hi hr => exact hp.report hi (hd.reused _ _ _ rfl hi hr)
  | start hi hr =>
      refine hp.set hi ?_ rfl rfl rfl
      intro r hr
      cases hr
  | land hi =>
      refine hp.set hi ?_ rfl rfl rfl
      rintro r ⟨⟩
      exact hd.probed _ _ _ rfl hi
  | keep hi => exact hp.report hi (hp.kept _ (List.mem_of_getElem? hi) _ rfl)

theorem Places.keys_of_isDone (hp : Places due hosts p) (h : p.isDone = true) :
    (p.reports.map Prod.fst).Perm hosts := by
  obtain ⟨hpending, hscans⟩ := isDone_iff.mp h
  have hperm := hp.perm
  rwa [hpending, hscans, List.map_nil, List.nil_append, List.nil_append] at hperm

theorem Places.keys_ofList_perm (hp : Places due hosts p) (hnodup : hosts.Nodup)
    (h : p.isDone = true) :
    (Keyed.ofList p.reports).keys.Perm hosts := by
  have hkeys := hp.keys_of_isDone h
  exact (Keyed.keys_ofList_perm (hkeys.nodup_iff.mpr hnodup)).trans hkeys

theorem places_pending (due : String → HostReport → Prop) (domain : String) (hosts : List String) :
    Places due hosts { domain, pending := hosts } where
  perm := by
    simp only [List.map_nil, List.append_nil]
    exact List.Perm.refl _
  reports := fun _ he => (List.not_mem_nil he).elim
  kept := fun _ hc => (List.not_mem_nil hc).elim

def Agrees (canonical : String → HostReport) (hostname : String) (r : HostReport) : Prop :=
  r.untimed = canonical hostname

theorem domain_step (h : Step s p w m q v) : q.domain = p.domain := by
  cases h <;> rfl

end Probing

namespace Inquiry

variable {domain : String} {expected : List String} {q r : Inquiry} {w v : World} {m : Move}

def Sound (s : Services) (canonical : String → HostReport) (domain : String)
    (expected : List String) :
    Inquiry → Prop
  | asked name wanted => HostName.normalize name = domain ∧ wanted = expected
  | scanning all hosts p =>
      all = mxNames s domain ∧ hosts = chosen s domain expected ∧ all.isEmpty = false ∧
        hosts.isEmpty = false ∧ p.domain = domain ∧
          Probing.Places (Probing.Agrees canonical) hosts p
  | answered result => result.report.untimed = verdictBy s canonical domain expected

theorem sound_embark (canonical : String → HostReport) (hsome : (mxNames s domain).isEmpty = false)
    (hchosen : (chosen s domain expected).isEmpty = false) :
    Sound s canonical domain expected
      (.scanning (mxNames s domain) (chosen s domain expected)
        { domain, pending := chosen s domain expected }) := by
  exact ⟨rfl, rfl, hsome, hchosen, rfl, Probing.places_pending _ _ _⟩

theorem sound_conclude (hpolicy : TimelessPolicy s) {all hosts : List String} {p : Probing}
    (hs : Sound s canonical domain expected (.scanning all hosts p)) (h : p.isDone = true)
    (w : World) :
    Sound s canonical domain expected (.answered (DomainCheck.conclude s all hosts p w).1) := by
  obtain ⟨rfl, rfl, hsome, hchosen, rfl, hplaces⟩ := hs
  obtain ⟨⟨now, hreport⟩, -⟩ :=
    conclude_spec s (mxNames s p.domain) (chosen s p.domain expected) p w
  have hmap := map_untimed_ofList (nodup_chosen s p.domain expected) (hplaces.keys_of_isDone h)
    hplaces.reports
  have hverdict : (s.policy p.domain (.ofList p.reports)).1 =
      (s.policy p.domain (reportsBy canonical (chosen s p.domain expected))).1 := by
    refine hpolicy _ _ _ ?_
    rw [← hmap, HostReport.map_untimed_map_untimed]
  simp only [Sound, hreport, DomainReport.untimed_ofChecks, hmap, verdictBy, hsome, hchosen,
    hverdict]
  rfl

end Inquiry

end MailAudit.DomainCheck
