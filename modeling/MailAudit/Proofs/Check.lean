import MailAudit.Proofs.Verdict

namespace MailAudit

namespace Check

inductive Built : Check → Prop
  | pass (name : String) : Built (.pass name)
  | warn (name message : String) : Built (.warn name message)
  | fail (name message : String) : Built (.fail name message)
  | group (name : String) {checks : List Check} (h : ∀ c ∈ checks, Built c) :
      Built (.group name checks)

theorem messagesOf_eq_flatMap (checks : List Check) :
    messagesOf checks = checks.flatMap allMessages := by
  induction checks with
  | nil => rfl
  | cons c rest ih => exact congrArg (c.allMessages ++ ·) ih

theorem allMessages_group (name : String) (checks : List Check) :
    (group name checks).allMessages = checks.flatMap allMessages :=
  messagesOf_eq_flatMap checks

theorem worst_eq_success_iff_silent {checks : List Check}
    (h : ∀ c ∈ checks, c.verdict = .success ↔ c.allMessages = []) :
    Verdict.worst (checks.map (·.verdict)) = .success ↔ checks.flatMap allMessages = [] := by
  rw [Verdict.worst_eq_success_iff, List.flatMap_eq_nil_iff, List.forall_mem_map]
  exact forall₂_congr h

theorem Built.success_iff_silent {c : Check} (h : c.Built) :
    c.verdict = .success ↔ c.allMessages = [] := by
  induction h with
  | pass name => exact iff_of_true rfl rfl
  | warn name message => exact iff_of_false Verdict.noConfusion (List.cons_ne_nil _ _)
  | fail name message => exact iff_of_false Verdict.noConfusion (List.cons_ne_nil _ _)
  | group name _ ih =>
      rw [allMessages_group]
      exact worst_eq_success_iff_silent ih

end Check

end MailAudit
