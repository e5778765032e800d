import MailAudit.Batch.Totals
import MailAudit.Proofs.Batch.Delivery

namespace MailAudit.Batch

def announcing (mode : MtaSts.Mode) (rs : List DomainReport) : List String :=
  (rs.filter fun r => r.hasMailService && r.policy.map PolicyReport.mode == some mode).map
    (·.domain)

namespace Totals

variable {rs rs' : List DomainReport} {time : Instant} {source : String}

def ofReports (time : Instant) (source : String) (rs : List DomainReport) : Totals :=
  (({ time, source } : Totals).handleAll rs).1

def plus (t : Totals) (rs : List DomainReport) : Totals :=
  { t with
    attempted := t.attempted + rs.length
    withMxs := t.withMxs + rs.countP fun r => !r.hosts.isEmpty
    testing := t.testing ++ announcing .testing rs
    enforce := t.enforce ++ announcing .enforce rs }

theorem announcing_cons (mode : MtaSts.Mode) (r : DomainReport) (rs : List DomainReport) :
    announcing mode (r :: rs) = announcing mode [r] ++ announcing mode rs := by
  rw [announcing, ← List.singleton_append, List.filter_append, List.map_append]
  rfl

theorem plus_cons (t : Totals) (r : DomainReport) (rs : List DomainReport) :
    t.plus (r :: rs) = (t.plus [r]).plus rs := by
  simp only [plus, announcing_cons _ r rs, List.append_assoc, List.countP_cons, List.countP_nil,
    List.length_cons, List.length_nil, mk.injEq, true_and, and_true]
  omega

theorem handle_fst (t : Totals) (r : DomainReport) : (t.handle r).1 = t.plus [r] := by
  cases hhosts : r.hosts.isEmpty with
  | true => simp [handle, plus, announcing, DomainReport.hasMailService, hhosts]
  | false =>
    simp only [handle, DomainReport.hasMailService, hhosts, Bool.not_false, if_true, addService]
    cases hpolicy : r.policy with
    | none => simp [plus, announcing, DomainReport.hasMailService, hhosts, hpolicy]
    | some policy =>
      cases hmode : policy.mode <;>
        simp [plus, announcing, DomainReport.hasMailService, hhosts, hpolicy, hmode]

theorem handleAll_fst (t : Totals) (rs : List DomainReport) : (t.handleAll rs).1 = t.plus rs := by
  induction rs generalizing t with
  | nil => simp [handleAll, plus, announcing]
  | cons r rest ih =>
    rw [plus_cons, ← handle_fst, ← ih]
    rfl

theorem ofReports_eq (time : Instant) (source : String) (rs : List DomainReport) :
    ofReports time source rs =
      { time, source
        attempted := rs.length
        withMxs := rs.countP fun r => !r.hosts.isEmpty
        testing := announcing .testing rs
        enforce := announcing .enforce rs } := by
  rw [ofReports, handleAll_fst]
  simp [plus]

theorem announcing_perm (mode : MtaSts.Mode) (h : rs.Perm rs') :
    (announcing mode rs).Perm (announcing mode rs') :=
  (h.filter _).map _

theorem text_ofReports_perm (time : Instant) (source : String) (h : rs.Perm rs') :
    (ofReports time source rs).text = (ofReports time source rs').text := by
  simp only [text, row, ofReports_eq, h.length_eq, h.countP_eq,
    (announcing_perm .testing h).length_eq, (announcing_perm .enforce h).length_eq]

/-- A run that nobody cancels, with so many workers, comes to its end and prints this. -/
def Prints {σ : Type} (f : String → DomainReport) (next : String → σ → σ) (column : Nat)
    (records : List (List String)) (world : σ) (time : Instant) (source : String) (poolSize : Nat)
    (text : String) : Prop :=
  ∃ (ms : List Move) (done : List (String × DomainReport)) (q : Pipeline Csv.Error DomainReport σ),
    .cancel ∉ ms ∧
    Pipeline.Run (fun domain w => (f domain, next domain w))
      (.start column poolSize false (records.map .ok) world) ms done q ∧
    q.Final ∧ text = (ofReports time source q.reports).text

/-- The totals sum up the reports whatever their order. So what is printed depends on the rows
alone, and not on the number of workers or on who moves when. -/
theorem totals_do_not_show_order (time : Instant) (source : String) :
    (∀ rs rs' : List DomainReport, rs.Perm rs' →
      (ofReports time source rs).attempted = rs.length ∧
      (ofReports time source rs).withMxs = rs.countP (fun r => !r.hosts.isEmpty) ∧
      (ofReports time source rs).enforce = announcing .enforce rs ∧
      (ofReports time source rs).testing = announcing .testing rs ∧
      (ofReports time source rs').attempted = (ofReports time source rs).attempted ∧
      (ofReports time source rs').withMxs = (ofReports time source rs).withMxs ∧
      (ofReports time source rs').enforce.Perm (ofReports time source rs).enforce ∧
      (ofReports time source rs').testing.Perm (ofReports time source rs).testing) ∧
    ∀ {σ : Type} (f : String → DomainReport) (next : String → σ → σ) (column : Nat)
      (records : List (List String)) (world : σ) (poolSize : Nat), 1 ≤ poolSize → ∀ text,
      Prints f next column records world time source poolSize text ↔
        text = (ofReports time source ((records.filterMap (domainIn? column)).map f)).text := by
  constructor
  · intro rs rs' h
    rw [ofReports_eq, ofReports_eq]
    exact ⟨rfl, rfl, rfl, rfl, h.length_eq.symm, (h.countP_eq _).symm,
      announcing_perm .enforce h.symm, announcing_perm .testing h.symm⟩
  · intro σ f next column records world poolSize hpool text
    have hprinted {ms done} {q : Pipeline Csv.Error DomainReport σ} (hms : .cancel ∉ ms)
        (h : Pipeline.Run (fun domain w => (f domain, next domain w))
          (.start column poolSize false (records.map .ok) world) ms done q) (hfin : q.Final) :
        (ofReports time source q.reports).text =
          (ofReports time source ((records.filterMap (domainIn? column)).map f)).text := by
      have hf : ∀ domain w, (f domain, next domain w).1 = f domain := fun _ _ => rfl
      exact text_ofReports_perm time source (h.reports_perm hf hpool hms hfin)
    constructor
    · rintro ⟨ms, done, q, hms, hrun, hfin, rfl⟩
      exact hprinted hms hrun hfin
    · rintro rfl
      obtain ⟨ms, done, q, hms, hrun, hfin⟩ := (Pipeline.sound_start hpool).exists_final
      exact ⟨ms, done, q, hms, hrun, hfin, (hprinted hms hrun hfin).symm⟩

def announced (domain : String) : DomainReport :=
  .ofChecks domain [domain] [domain]
    (if domain = "b.example" then .empty
      else .ofList [(domain, .observed domain domain [] default)])
    (some (.ofChecks (if domain = "c.example" then .testing else .enforce) [domain] 86400 none []))
    default

theorem totals_of_three_domains_do_not_show_order :
    (["b.example", "a.example", "c.example"].map announced).Perm
        (["a.example", "b.example", "c.example"].map announced) ∧
    1 ≤ 2 ∧
    (ofReports default "l.csv" (["a.example", "b.example", "c.example"].map announced)).enforce =
      ["a.example"] ∧
    (ofReports default "l.csv" (["b.example", "a.example", "c.example"].map announced)).withMxs =
      2 ∧
    Prints announced (fun _ w => w) 0 [["a.example"], ["b.example"], [" "], ["c.example"]]
      () default "l.csv" 2
      (ofReports default "l.csv" (["a.example", "b.example", "c.example"].map announced)).text := by
  have hperm : (["b.example", "a.example", "c.example"].map announced).Perm
      (["a.example", "b.example", "c.example"].map announced) := List.Perm.swap _ _ _
  obtain ⟨htotals, hprints⟩ := totals_do_not_show_order default "l.csv"
  obtain ⟨-, -, -, -, -, hwith, -⟩ := htotals _ _ hperm.symm
  refine ⟨hperm, by decide, ?_, ?_, ?_⟩
  · rw [ofReports_eq]
    decide
  · rw [hwith, ofReports_eq]
    decide
  · exact
      (hprints announced (fun _ w => w) 0 [["a.example"], ["b.example"], [" "], ["c.example"]] () 2
      (by decide) _).mpr rfl

end Totals

end MailAudit.Batch
