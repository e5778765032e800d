import MailAudit.Proofs.Batch.Totals
import MailAudit.Proofs.Text.Decimal

/-! The progress that is logged while reports are summed up. It is logged in the middle of an
update: its number of domains counts the report that has just come in, its other numbers and its
lists do not. So it describes the reports that it counts exactly if the last of them is on a domain
without mail service. -/

namespace MailAudit.Batch.Totals

variable {rs : List DomainReport} {r : DomainReport} {time : Instant} {source : String} {n : Nat}

def progressPoints (n : Nat) : List Nat := (List.range' 1 n).filter fun k => k % progressEvery = 0

/-- The totals as the progress logged with report number `n` has them. -/
def shownAt (time : Instant) (source : String) (rs : List DomainReport) (n : Nat) : Totals :=
  { ofReports time source (rs.take (n - 1)) with attempted := n }

theorem progressPoints_succ (n : Nat) :
    progressPoints (n + 1) =
      progressPoints n ++ if (n + 1) % progressEvery = 0 then [n + 1] else [] := by
  rw [progressPoints, List.range'_1_concat, List.filter_append, ← progressPoints, Nat.add_comm 1]
  by_cases h : (n + 1) % progressEvery = 0 <;> simp [h]

theorem bounds_of_mem_progressPoints {k : Nat} (h : k ∈ progressPoints n) : 1 ≤ k ∧ k ≤ n := by
  have hrange := List.mem_range'_1.mp (List.mem_of_mem_filter h)
  omega

theorem handleAll_append (t : Totals) (rs rs' : List DomainReport) :
    t.handleAll (rs ++ rs') =
      (((t.handleAll rs).1.handleAll rs').1,
        (t.handleAll rs).2 ++ ((t.handleAll rs).1.handleAll rs').2) := by
  induction rs generalizing t with
  | nil => rfl
  | cons r rest ih => simp only [List.cons_append, handleAll, ih, List.append_assoc]

theorem ofReports_concat (time : Instant) (source : String) (rs : List DomainReport)
    (r : DomainReport) :
    ofReports time source (rs ++ [r]) = ((ofReports time source rs).handle r).1 := by
  rw [ofReports, handleAll_append]
  rfl

theorem attempted_ofReports (time : Instant) (source : String) (rs : List DomainReport) :
    (ofReports time source rs).attempted = rs.length := by
  rw [ofReports_eq]

theorem handle_snd (time : Instant) (source : String) (rs : List DomainReport) (r : DomainReport) :
    ((ofReports time source rs).handle r).2 =
      if (rs.length + 1) % progressEvery = 0 then
        { ofReports time source rs with attempted := rs.length + 1 }.progress
      else [] := by
  simp only [handle, attempted_ofReports]

theorem handleAll_snd (time : Instant) (source : String) (rs : List DomainReport) :
    (({ time, source } : Totals).handleAll rs).2 =
      (progressPoints rs.length).flatMap fun n => (shownAt time source rs n).progress := by
  induction rs using List.reverseRecOn with
  | nil => rfl
  | append_singleton rs r ih =>
    have hearlier :
        (progressPoints rs.length).flatMap (fun n => (shownAt time source (rs ++ [r]) n).progress) =
        (progressPoints rs.length).flatMap fun n => (shownAt time source rs n).progress := by
      refine List.flatMap_congr fun n hn => ?_
      have hle := (bounds_of_mem_progressPoints hn).2
      rw [shownAt, shownAt, List.take_append_of_le_length (by omega)]
    have hlatest :
        ((ofReports time source rs).handleAll [r]).2 = ((ofReports time source rs).handle r).2 :=
      List.append_nil _
    rw [handleAll_append, ih, ← ofReports, hlatest, handle_snd, List.length_append,
      List.length_singleton, progressPoints_succ, List.flatMap_append, hearlier]
    split
    · rw [List.flatMap_singleton, shownAt, Nat.add_sub_cancel, List.take_left]
    · rfl

theorem toList_repr (n : Nat) : n.repr.toList = Text.Decimal.digits n := String.toList_ofList

theorem digits_append_inj {a b : Nat} {x y : List Char}
    (h : Text.Decimal.digits a ++ '\t' :: x = Text.Decimal.digits b ++ '\t' :: y) : a = b := by
  have hrun (c : Nat) (z : List Char) :
      (Text.Decimal.digits c ++ '\t' :: z).takeWhile Text.Decimal.isDigit =
        Text.Decimal.digits c := by
    refine Text.takeWhile_run (fun _ => Text.Decimal.isDigit_of_mem_digits) ?_
    rintro _ ⟨⟩
    rfl
  have hdigits := congrArg (List.takeWhile Text.Decimal.isDigit) h
  rw [hrun, hrun] at hdigits
  rw [← Text.Decimal.value_digits a, hdigits, Text.Decimal.value_digits]

section Alike

variable {t u : Totals} (htime : t.time = u.time) (hsource : t.source = u.source)
  (hattempted : t.attempted = u.attempted)

include htime hsource hattempted

theorem withMxs_eq_of_row_eq (h : t.row = u.row) : t.withMxs = u.withMxs := by
  have hchars := congrArg String.toList h
  simp only [row, toString, htime, hsource, hattempted, String.toList_append, List.append_assoc,
    List.append_cancel_left_eq, toList_repr] at hchars
  exact digits_append_inj hchars

theorem withMxs_eq_of_progress_eq (h : t.progress = u.progress) : t.withMxs = u.withMxs := by
  have htext : "Progress:\n" ++ t.text = "Progress:\n" ++ u.text :=
    congrArg Log.Entry.message (Note.logged.inj (List.cons.inj h).1)
  simp only [text, String.append_right_inj, String.append_left_inj] at htext
  exact withMxs_eq_of_row_eq htime hsource hattempted htext

end Alike

theorem progress_shownAt_eq_iff (hn : 1 ≤ n) (hr : rs[n - 1]? = some r) :
    (shownAt time source rs n).progress = (ofReports time source (rs.take n)).progress ↔
      r.hasMailService = false := by
  have htake : rs.take n = rs.take (n - 1) ++ [r] := by
    rw [← Nat.sub_add_cancel hn, List.take_add_one, Nat.add_sub_cancel, hr]
    rfl
  have hlength : (ofReports time source (rs.take (n - 1))).attempted + 1 = n := by
    have hlt := (List.getElem?_eq_some_iff.mp hr).1
    rw [attempted_ofReports, List.length_take]
    omega
  rw [htake, ofReports_concat]
  constructor
  · intro h
    have hsame := withMxs_eq_of_progress_eq (by rw [handle_fst]; rfl) (by rw [handle_fst]; rfl)
      (by rw [handle_fst]; exact hlength.symm) h
    have hnone : [r].countP (fun r => !r.hosts.isEmpty) = 0 := by
      rw [handle_fst] at hsame
      exact Nat.left_eq_add.mp hsame
    rw [List.countP_eq_zero] at hnone
    exact Bool.eq_false_iff.mpr (hnone r List.mem_cons_self)
  · intro h
    rw [handle, h, if_neg Bool.false_ne_true, hlength]
    rfl

/-- What is logged is a progress line at every thousandth report. It shows the totals before that
report, but for their number, and so those over all the reports that it counts just where the last
one adds nothing to them. -/
theorem progress_describes_its_reports_iff (time : Instant) (source : String)
    (rs : List DomainReport) :
    (({ time, source } : Totals).handleAll rs).2 =
      (progressPoints rs.length).flatMap (fun n => (shownAt time source rs n).progress) ∧
    ∀ n ∈ progressPoints rs.length,
      ((shownAt time source rs n).progress = (ofReports time source (rs.take n)).progress ↔
        ∀ r ∈ rs[n - 1]?, r.hasMailService = false) := by
  refine ⟨handleAll_snd time source rs, fun n hn => ?_⟩
  obtain ⟨hpos, hle⟩ := bounds_of_mem_progressPoints hn
  have hr : rs[n - 1]? = some rs[n - 1] := List.getElem?_eq_getElem (by omega)
  rw [progress_shownAt_eq_iff hpos hr, hr]
  simp only [Option.mem_some_iff, forall_eq']

theorem withMxs_ofReports_of_all (h : ∀ r ∈ rs, r.hasMailService = true) :
    (ofReports time source rs).withMxs = rs.length := by
  rw [ofReports_eq]
  exact List.countP_eq_length.mpr h

theorem last_report_is_missing_from_progress :
    ∃ rs : List DomainReport, rs.length = 1000 ∧ (∀ r ∈ rs, r.hasMailService = true) ∧
      (({ time := default, source := "list.csv" } : Totals).handleAll rs).2 =
        (shownAt default "list.csv" rs 1000).progress ∧
      (shownAt default "list.csv" rs 1000).attempted = 1000 ∧
      (shownAt default "list.csv" rs 1000).withMxs = 999 ∧
      (ofReports default "list.csv" rs).withMxs = 1000 ∧
      (({ time := default, source := "list.csv" } : Totals).handleAll rs).2 ≠
        (progressPoints rs.length).flatMap fun n =>
          (ofReports default "list.csv" (rs.take n)).progress := by
  let r : DomainReport :=
    .ofChecks "a.example" ["mx.a.example"] ["mx.a.example"]
      (.ofList [("mx.a.example", .observed "a.example" "mx.a.example" [] default)]) none default
  have hservice : r.hasMailService = true := rfl
  obtain ⟨rs, hlength, hall⟩ : ∃ rs : List DomainReport, rs.length = 1000 ∧
      ∀ r ∈ rs, r.hasMailService = true := by
    refine ⟨List.replicate 1000 r, List.length_replicate, fun r' hr' => ?_⟩
    rw [List.eq_of_mem_replicate hr']
    exact hservice
  have hpoints : progressPoints 1000 = [1000] := by decide +kernel
  have hshown : (shownAt default "list.csv" rs 1000).withMxs = 999 := by
    have hfirst : ∀ r ∈ rs.take 999, r.hasMailService = true :=
      fun r hr => hall r (List.mem_of_mem_take hr)
    refine (withMxs_ofReports_of_all hfirst).trans ?_
    rw [List.length_take, hlength]
    rfl
  have hwith : (ofReports default "list.csv" rs).withMxs = 1000 :=
    (withMxs_ofReports_of_all hall).trans hlength
  have hlogged : (({ time := default, source := "list.csv" } : Totals).handleAll rs).2 =
      (shownAt default "list.csv" rs 1000).progress := by
    rw [handleAll_snd, hlength, hpoints, List.flatMap_singleton]
  refine ⟨rs, hlength, hall, hlogged, rfl, hshown, hwith, fun heq => ?_⟩
  rw [hlogged, hlength, hpoints, List.flatMap_singleton] at heq
  have hlast : rs[1000 - 1]? = some rs[999] := List.getElem?_eq_getElem (by omega)
  have hnone := (progress_shownAt_eq_iff (by decide) hlast).mp heq
  rw [hall _ (List.getElem_mem _)] at hnone
  cases hnone

end MailAudit.Batch.Totals
