import MailAudit.Proofs.DomainCheck.Crew
import MailAudit.Proofs.DomainCheck.Outset
import MailAudit.Proofs.Report.Severity

namespace MailAudit.DomainCheck

variable {s : Services} {hostname : String} {known : Option HostReport} {rs : List HostReport}

abbrev Landings := List (String × HostReport)

def probesOf (hostname : String) (landings : Landings) : List HostReport :=
  (landings.filter fun e => e.1 == hostname).map Prod.snd

theorem probesOf_append (hostname : String) (later earlier : Landings) :
    probesOf hostname (later ++ earlier) = probesOf hostname later ++
      probesOf hostname earlier := by
  rw [probesOf, List.filter_append, List.map_append]
  rfl

theorem probesOf_self (hostname : String) (r : HostReport) :
    probesOf hostname [(hostname, r)] = [r] := by
  rw [probesOf, List.filter_singleton, beq_self_eq_true]
  rfl

theorem probesOf_other {other : String} (hne : hostname ≠ other) (r : HostReport) :
    probesOf hostname [(other, r)] = [] := by
  rw [probesOf, List.filter_singleton, beq_false_of_ne hne.symm]
  rfl

theorem probesOf_ended (hostname : String) (r : HostReport) (past : Landings) :
    probesOf hostname ([(hostname, r)] ++ past) = r :: probesOf hostname past := by
  rw [probesOf_append, probesOf_self]
  rfl

theorem probesOf_other_ended {other : String} (hne : hostname ≠ other) (r : HostReport)
    (past : Landings) :
    probesOf hostname ([(other, r)] ++ past) = probesOf hostname past := by
  rw [probesOf_append, probesOf_other hne]
  rfl

namespace Probing

variable {p q : Probing} {w v : World} {m : Move}

def landed (s : Services) (p : Probing) (w : World) : Move → Landings
  | .land i =>
      match p.scans[i]? with
      | some ⟨hostname, .probing _⟩ => [(hostname, (probed s p.domain hostname w).1)]
      | _ => []
  | _ => []

theorem landed_land {i : Nat} {endsAt : Nat} (hi : p.scans[i]? = some ⟨hostname, .probing endsAt⟩) :
    p.landed s w (.land i) = [(hostname, (probed s p.domain hostname w).1)] := by
  simp only [landed, hi]

def Distinct (p : Probing) : Prop :=
  (p.pending ++ (p.scans.map (·.hostname) ++ p.reports.map Prod.fst)).Nodup

theorem perm_step (h : Step s p w m q v) :
    (q.pending ++ (q.scans.map (·.hostname) ++ q.reports.map Prod.fst)).Perm
      (p.pending ++ (p.scans.map (·.hostname) ++ p.reports.map Prod.fst)) := by
  have hplaces : Places (fun _ _ => True) _ p :=
    ⟨List.Perm.refl _, fun _ _ => trivial, fun _ _ _ _ => trivial⟩
  exact (hplaces.step ⟨fun _ _ _ _ _ _ => trivial, fun _ _ _ _ _ => trivial⟩ h).perm

theorem Distinct.step (hd : p.Distinct) (h : Step s p w m q v) : q.Distinct :=
  (perm_step h).nodup_iff.mpr hd

theorem Distinct.scans (hd : p.Distinct) : (p.scans.map (·.hostname)).Nodup :=
  hd.of_append_right.of_append_left

theorem Distinct.reports (hd : p.Distinct) : (p.reports.map Prod.fst).Nodup :=
  hd.of_append_right.of_append_right

theorem Distinct.eq_of_hostname_eq (hd : p.Distinct) {c c' : Scan} (hc : c ∈ p.scans)
    (hc' : c' ∈ p.scans) (heq : c.hostname = c'.hostname) : c = c' :=
  List.inj_on_of_nodup_map hd.scans hc hc' heq

theorem Distinct.hostname_ne (hd : p.Distinct) {i : Nat} {c c' : Scan} (hc : p.scans[i]? = some c)
    (hc' : c' ∈ p.scans) (hstage : c'.stage ≠ c.stage) : c'.hostname ≠ c.hostname := by
  intro heq
  rw [hd.eq_of_hostname_eq hc' (List.mem_of_getElem? hc) heq] at hstage
  exact hstage rfl

theorem Distinct.notMem_reports (hd : p.Distinct) {c : Scan} (hc : c ∈ p.scans) :
    c.hostname ∉ p.reports.map Prod.fst :=
  List.disjoint_of_nodup_append hd.of_append_right (List.mem_map_of_mem hc)

theorem distinct_pending {domain : String} {hosts : List String} (h : hosts.Nodup) :
    Distinct { domain, pending := hosts } := by
  rw [Distinct, List.map_nil, List.map_nil, List.append_nil, List.append_nil]
  exact h

section

variable {scans : List Scan} {i : Nat} {stage : Stage} {c : Scan}

theorem exists_others (hnodup : (scans.map (·.hostname)).Nodup)
    (hi : scans[i]? = some ⟨hostname, stage⟩) :
    ∃ before behind, scans = before ++ ⟨hostname, stage⟩ :: behind ∧
      (∀ c', scans.set i c' = before ++ c' :: behind) ∧ scans.eraseIdx i = before ++ behind ∧
      ∀ c ∈ before ++ behind, c.hostname ≠ hostname := by
  obtain ⟨before, behind, hscans, hset, herase⟩ := exists_split hi
  refine ⟨before, behind, hscans, hset, herase, fun c hc heq => ?_⟩
  rw [hscans, List.map_append, List.map_cons, List.nodup_middle] at hnodup
  refine (List.nodup_cons.mp hnodup).1 ?_
  rw [← List.map_append]
  exact List.mem_map.mpr ⟨c, hc, heq⟩

theorem mem_eraseIdx_iff (hnodup : (scans.map (·.hostname)).Nodup)
    (hi : scans[i]? = some ⟨hostname, stage⟩) :
    c ∈ scans.eraseIdx i ↔ c ∈ scans ∧ c.hostname ≠ hostname := by
  obtain ⟨before, behind, hscans, -, herase, hothers⟩ := exists_others hnodup hi
  rw [herase]
  constructor
  · intro hc
    refine ⟨?_, hothers c hc⟩
    rw [hscans]
    exact List.mem_append.mpr ((List.mem_append.mp hc).imp_right (List.mem_cons_of_mem _))
  · rintro ⟨hc, hne⟩
    rw [hscans] at hc
    rcases List.mem_append.mp hc with hc | hc
    · exact List.mem_append_left _ hc
    · rcases List.mem_cons.mp hc with rfl | hc
      · exact absurd rfl hne
      · exact List.mem_append_right _ hc

theorem mem_set_iff (hnodup : (scans.map (·.hostname)).Nodup)
    (hi : scans[i]? = some ⟨hostname, stage⟩) (c' : Scan) :
    c ∈ scans.set i c' ↔ c = c' ∨ c ∈ scans ∧ c.hostname ≠ hostname := by
  obtain ⟨before, behind, -, hset, herase, -⟩ := exists_others hnodup hi
  rw [← mem_eraseIdx_iff hnodup hi, hset, herase]
  simp only [List.mem_append, List.mem_cons]
  exact or_left_comm

end

theorem reports_step {e : String × HostReport} (h : Step s p w m q v) (he : e ∈ p.reports) :
    e ∈ q.reports := by
  cases h with
  | reuse hi hr => exact List.mem_cons_of_mem _ he
  | keep hi => exact List.mem_cons_of_mem _ he
  | _ => exact he

theorem probesOf_landed_of_notMem (hnone : hostname ∉ p.scans.map (·.hostname)) (w : World)
    (m : Move) :
    probesOf hostname (p.landed s w m) = [] := by
  cases m with
  | land i =>
      simp only [landed]
      split
      · rename_i other endsAt hi
        refine probesOf_other ?_ _
        rintro rfl
        exact hnone (List.mem_map_of_mem (List.mem_of_getElem? hi))
      · rfl
  | _ => rfl

theorem probesOf_landed_of_reported {r : HostReport} (hd : p.Distinct)
    (he : (hostname, r) ∈ p.reports) (w : World) (m : Move) :
    probesOf hostname (p.landed s w m) = [] := by
  refine probesOf_landed_of_notMem (fun hmem => ?_) w m
  obtain ⟨c, hc, rfl⟩ := List.mem_map.mp hmem
  exact hd.notMem_reports hc (List.mem_map.mpr ⟨_, he, rfl⟩)

def moveOf (c : Scan) (i : Nat) : Move :=
  match c.stage with
  | .looking => .look i
  | .probing _ => .land i
  | .keeping _ => .keep i

theorem remains_or_moves (hd : p.Distinct) (h : Step s p w m q v) {c : Scan} (hc : c ∈ p.scans) :
    (c ∈ q.scans ∧ probesOf c.hostname (p.landed s w m) = []) ∨
      ∃ i, p.scans[i]? = some c ∧ m = moveOf c i := by
  have hsame {i : Nat} {other : String} {stage : Stage} (hi : p.scans[i]? = some ⟨other, stage⟩)
      (heq : c.hostname = other) : c = ⟨other, stage⟩ :=
    hd.eq_of_hostname_eq hc (List.mem_of_getElem? hi) heq
  cases h with
  | enter hp hroom => exact .inl ⟨List.mem_append_left _ hc, rfl⟩
  | @reuse i other r hi hr =>
      by_cases heq : c.hostname = other
      · obtain rfl := hsame hi heq
        exact .inr ⟨i, hi, rfl⟩
      · exact .inl ⟨(mem_eraseIdx_iff hd.scans hi).mpr ⟨hc, heq⟩, rfl⟩
  | @start i other mostInFlight hi hr =>
      by_cases heq : c.hostname = other
      · obtain rfl := hsame hi heq
        exact .inr ⟨i, hi, rfl⟩
      · exact .inl ⟨(mem_set_iff hd.scans hi _).mpr (.inr ⟨hc, heq⟩), rfl⟩
  | @land i other endsAt hi =>
      by_cases heq : c.hostname = other
      · obtain rfl := hsame hi heq
        exact .inr ⟨i, hi, rfl⟩
      · refine .inl ⟨(mem_set_iff hd.scans hi _).mpr (.inr ⟨hc, heq⟩), ?_⟩
        rw [landed_land hi]
        exact probesOf_other heq _
  | @keep i other r hi =>
      by_cases heq : c.hostname = other
      · obtain rfl := hsame hi heq
        exact .inr ⟨i, hi, rfl⟩
      · exact .inl ⟨(mem_eraseIdx_iff hd.scans hi).mpr ⟨hc, heq⟩, rfl⟩

/-- What has become of a host since its look into the cache: what was taken from there, if anything,
and the reports of probes of it since then. -/
inductive Fate (hostname : String) (p : Probing) : Option HostReport → List HostReport → Prop
  | reused {r : HostReport} (h : (hostname, r) ∈ p.reports) : Fate hostname p (some r) []
  | probing {endsAt : Nat} (h : ⟨hostname, .probing endsAt⟩ ∈ p.scans) : Fate hostname p none []
  | keeping {r : HostReport} (h : ⟨hostname, .keeping r⟩ ∈ p.scans) : Fate hostname p none [r]
  | reported {r : HostReport} (h : (hostname, r) ∈ p.reports) : Fate hostname p none [r]

theorem fate_look {i : Nat} (hd : p.Distinct) (hi : p.scans[i]? = some ⟨hostname, .looking⟩)
    (h : Step s p w (.look i) q v) :
    Fate hostname q ((find s.clock hostname w).reused p.domain hostname) [] := by
  cases h with
  | reuse hi' hr =>
      rw [hi] at hi'
      cases hi'
      rw [hr]
      exact .reused List.mem_cons_self
  | start hi' hr =>
      rw [hi] at hi'
      cases hi'
      rw [hr]
      exact .probing ((mem_set_iff hd.scans hi _).mpr (.inl rfl))

theorem fate_of_probing {endsAt : Nat} (hd : p.Distinct) (h : Step s p w m q v)
    (hc : ⟨hostname, .probing endsAt⟩ ∈ p.scans) :
    Fate hostname q none (probesOf hostname (p.landed s w m)) := by
  rcases remains_or_moves hd h hc with ⟨hstays, hnone⟩ | ⟨i, hi, rfl⟩
  · rw [hnone]
    exact .probing hstays
  · cases h with
    | land hi' =>
        rw [hi] at hi'
        cases hi'
        rw [moveOf, landed_land hi, probesOf_self]
        exact .keeping ((mem_set_iff hd.scans hi _).mpr (.inl rfl))

theorem fate_of_keeping {r : HostReport} (hd : p.Distinct) (h : Step s p w m q v)
    (hc : ⟨hostname, .keeping r⟩ ∈ p.scans) :
    Fate hostname q none (probesOf hostname (p.landed s w m) ++ [r]) := by
  rcases remains_or_moves hd h hc with ⟨hstays, hnone⟩ | ⟨i, hi, rfl⟩
  · rw [hnone]
    exact .keeping hstays
  · cases h with
    | keep hi' =>
        rw [hi] at hi'
        cases hi'
        exact .reported List.mem_cons_self

theorem Fate.step (hf : Fate hostname p known rs) (hd : p.Distinct) (h : Step s p w m q v) :
    Fate hostname q known (probesOf hostname (p.landed s w m) ++ rs) := by
  cases hf with
  | reused he =>
      rw [probesOf_landed_of_reported hd he]
      exact .reused (reports_step h he)
  | probing hc =>
      rw [List.append_nil]
      exact fate_of_probing hd h hc
  | keeping hc => exact fate_of_keeping hd h hc
  | reported he =>
      rw [probesOf_landed_of_reported hd he]
      exact .reported (reports_step h he)

theorem Fate.exists_reported (hf : Fate hostname p known rs) (hdone : p.isDone = true) :
    ∃ r, (hostname, r) ∈ p.reports ∧ (known = some r ∧ rs = [] ∨ known = none ∧ rs = [r]) := by
  obtain ⟨-, hscans⟩ := isDone_iff.mp hdone
  cases hf with
  | reused he => exact ⟨_, he, .inl ⟨rfl, rfl⟩⟩
  | probing hc =>
      rw [hscans] at hc
      cases hc
  | keeping hc =>
      rw [hscans] at hc
      cases hc
  | reported he => exact ⟨_, he, .inr ⟨rfl, rfl⟩⟩

end Probing

namespace Inquiry

def landed (s : Services) (q : Inquiry) (w : World) : Move → Landings
  | .scan m =>
      match q with
      | .scanning _ _ p => p.landed s w m
      | _ => []
  | _ => []

inductive Lands (s : Services) (q₀ : Inquiry) (w₀ : World) : Landings → Inquiry → World → Prop
  | refl : Lands s q₀ w₀ [] q₀ w₀
  | tail {landings q w m r v} : Lands s q₀ w₀ landings q w → q.step? s w m = some (r, v) →
      Lands s q₀ w₀ (q.landed s w m ++ landings) r v

variable {q r : Inquiry} {w v : World} {m : Move} {landings : Landings}

theorem Lands.trans {q₀ : Inquiry} {w₀ : World} {earlier later : Landings}
    (h : Lands s q₀ w₀ earlier q w) (h' : Lands s q w later r v) :
    Lands s q₀ w₀ (later ++ earlier) r v := by
  induction h' with
  | refl => exact h
  | tail _ hstep ih =>
      rw [List.append_assoc]
      exact ih.tail hstep

theorem Run.exists_lands {q₀ : Inquiry} {w₀ : World} {ms : List Move} (h : Run s q₀ w₀ ms q w) :
    ∃ landings, Lands s q₀ w₀ landings q w := by
  induction h with
  | refl => exact ⟨[], .refl⟩
  | tail _ hstep _ ih =>
      obtain ⟨landings, hlands⟩ := ih
      exact ⟨_, hlands.tail hstep⟩

def follow (s : Services) (q : Inquiry) (w : World) :
    List Move → Option (Landings × Inquiry × World)
  | [] => some ([], q, w)
  | m :: ms =>
      (q.step? s w m).bind fun (r, v) =>
        (r.follow s v ms).map fun (later, r', v') => (later ++ q.landed s w m, r', v')

theorem lands_of_follow {ms : List Move} (h : q.follow s w ms = some (landings, r, v)) :
    Lands s q w landings r v := by
  induction ms generalizing q w landings with
  | nil =>
      cases h
      exact .refl
  | cons m ms ih =>
      obtain ⟨⟨next, u⟩, hstep, hrest⟩ := Option.bind_eq_some_iff.mp h
      obtain ⟨⟨later, r', v'⟩, hlater, heq⟩ := Option.map_eq_some_iff.mp hrest
      cases heq
      have hone := Lands.refl.tail hstep
      rw [List.append_nil] at hone
      exact hone.trans (ih hlater)

theorem Lands.exists_answer (s : Services) (q : Inquiry) (w : World) :
    ∃ landings result v, Lands s q w landings (.answered result) v := by
  -- On the work that is left.
  induction hn : q.work s using Nat.strong_induction_on generalizing q w with
  | _ n ih =>
      cases hanswered : q.isAnswered with
      | true =>
          cases q with
          | answered result => exact ⟨[], result, w, .refl⟩
          | _ => cases hanswered
      | false =>
          obtain ⟨m, hm, -⟩ := exists_move (s := s) w hanswered
          obtain ⟨⟨r, v⟩, hstep⟩ := Option.isSome_iff_exists.mp hm
          obtain ⟨landings, result, u, hrest⟩ :=
            ih (r.work s) (hn ▸ work_step_lt (step_of_step? hstep)) r v rfl
          exact ⟨_, result, u, (Lands.refl.tail hstep).trans hrest⟩

inductive Ends (hostname : String) (result : Result) : Option HostReport → List HostReport → Prop
  | reused {r : HostReport} (h : result.report.hosts.get? hostname = some r) :
      Ends hostname result (some r) []
  | probed {r : HostReport} (h : result.report.hosts.get? hostname = some r) :
      Ends hostname result none [r]

def Fated (hostname : String) (known : Option HostReport) (rs : List HostReport) : Inquiry → Prop
  | asked _ _ => False
  | scanning _ _ p => p.Distinct ∧ p.Fate hostname known rs
  | answered result => Ends hostname result known rs

theorem get?_conclude {all hosts : List String} {p : Probing} {r : HostReport} (hd : p.Distinct)
    (he : (hostname, r) ∈ p.reports) :
    (DomainCheck.conclude s all hosts p w).1.report.hosts.get? hostname = some r := by
  obtain ⟨⟨now, hreport⟩, -⟩ := conclude_spec s all hosts p w
  rw [hreport, DomainReport.get?_hosts_ofChecks, Keyed.get?_ofList hd.reports,
    Keyed.lookup_eq_some_iff hd.reports]
  exact he

theorem ends_conclude {all hosts : List String} {p : Probing} (hd : p.Distinct)
    (hf : p.Fate hostname known rs) (hdone : p.isDone = true) :
    Ends hostname (DomainCheck.conclude s all hosts p w).1 known rs := by
  obtain ⟨r, he, ⟨rfl, rfl⟩ | ⟨rfl, rfl⟩⟩ := hf.exists_reported hdone
  · exact .reused (get?_conclude hd he)
  · exact .probed (get?_conclude hd he)

theorem fated_step (hf : q.Fated hostname known rs) (h : Step s q w m r v) :
    r.Fated hostname known (probesOf hostname (q.landed s w m) ++ rs) := by
  cases h with
  | settle hopened hraised hcache hticks => exact hf.elim
  | embark hsome hchosen => exact hf.elim
  | scan hstep =>
      obtain ⟨hd, hfate⟩ := hf
      have hprobing := Probing.step_of_step? hstep
      exact ⟨hd.step hprobing, hfate.step hd hprobing⟩
  | conclude hdone => exact ends_conclude hf.1 hf.2 hdone

theorem Lands.fated {q₀ : Inquiry} {w₀ : World} (h : Lands s q₀ w₀ landings q w)
    (hf : q₀.Fated hostname known []) : q.Fated hostname known (probesOf hostname landings) := by
  induction h with
  | refl => exact hf
  | tail _ hstep ih =>
      rw [probesOf_append]
      exact fated_step ih (step_of_step? hstep)

end Inquiry

end MailAudit.DomainCheck
