import MailAudit.Proofs.Check
import MailAudit.Report.Host
import MailAudit.Report.Policy
import Mathlib

namespace MailAudit

namespace Check

inductive Leaf where
  | pass (name : String)
  | warn (name message : String)
  | fail (name message : String)
  deriving DecidableEq, Repr

namespace Leaf

def check : Leaf → Check
  | pass name => .pass name
  | warn name message => .warn name message
  | fail name message => .fail name message

def verdict : Leaf → Verdict
  | pass _ => .success
  | warn _ _ => .warning
  | fail _ _ => .failure

def message? : Leaf → Option String
  | pass _ => none
  | warn _ message => some message
  | fail _ message => some message

theorem verdict_check (l : Leaf) : l.check.verdict = l.verdict := by
  cases l <;> rfl

theorem allMessages_check (l : Leaf) : l.check.allMessages = l.message?.toList := by
  cases l <;> rfl

theorem built_check (l : Leaf) : l.check.Built := by
  cases l with
  | pass name => exact .pass name
  | warn name message => exact .warn name message
  | fail name message => exact .fail name message

end Leaf

inductive Tree where
  | leaf (l : Leaf)
  | group (name : String) (parts : List Tree)

namespace Tree

mutual

def check : Tree → Check
  | leaf l => l.check
  | group name parts => .group name (checksOf parts)

def checksOf : List Tree → List Check
  | [] => []
  | t :: ts => check t :: checksOf ts

end

mutual

/-- Groups are no leaves, not even empty ones. -/
def leaves : Tree → List Leaf
  | leaf l => [l]
  | group _ parts => leavesOf parts

def leavesOf : List Tree → List Leaf
  | [] => []
  | t :: ts => leaves t ++ leavesOf ts

end

theorem checksOf_eq_map (ts : List Tree) : checksOf ts = ts.map check := by
  induction ts with
  | nil => rfl
  | cons t ts ih => rw [checksOf, ih, List.map_cons]

theorem leavesOf_eq_flatMap (ts : List Tree) : leavesOf ts = ts.flatMap leaves := by
  induction ts with
  | nil => rfl
  | cons t ts ih => rw [leavesOf, ih, List.flatMap_cons]

theorem check_group (name : String) (parts : List Tree) :
    (group name parts).check = .group name (parts.map check) := by
  rw [check, checksOf_eq_map]

theorem leaves_group (name : String) (parts : List Tree) :
    (group name parts).leaves = parts.flatMap leaves := by
  rw [leaves, leavesOf_eq_flatMap]

theorem induct {P : Tree → Prop} (hleaf : ∀ l, P (leaf l))
    (hgroup : ∀ name parts, (∀ t ∈ parts, P t) → P (group name parts)) : ∀ t, P t
  | leaf l => hleaf l
  | group name parts => hgroup name parts fun t _ => induct hleaf hgroup t

theorem verdict_check_le_iff {v : Verdict} (t : Tree) :
    t.check.verdict ≤ v ↔ ∀ l ∈ t.leaves, l.verdict ≤ v := by
  induction t using induct with
  | hleaf l => rw [check, leaves, Leaf.verdict_check, List.forall_mem_singleton]
  | hgroup name parts ih =>
    rw [check_group, leaves_group, Check.group, Verdict.worst_le_iff, List.map_map,
      List.forall_mem_map]
    simp only [List.mem_flatMap]
    constructor
    · rintro h l ⟨t, ht, hl⟩
      exact (ih t ht).mp (h t ht) l hl
    · intro h t ht
      exact (ih t ht).mpr fun l hl => h l ⟨t, ht, hl⟩

theorem allMessages_check (t : Tree) : t.check.allMessages = t.leaves.filterMap Leaf.message? := by
  induction t using induct with
  | hleaf l =>
    rw [check, leaves, Leaf.allMessages_check]
    cases l <;> rfl
  | hgroup name parts ih =>
    rw [check_group, leaves_group, allMessages_group, List.flatMap_map, List.filterMap_flatMap]
    exact List.flatMap_congr ih

theorem built_check (t : Tree) : t.check.Built := by
  induction t using induct with
  | hleaf l => exact l.built_check
  | hgroup name parts ih =>
    rw [check_group]
    exact .group name (List.forall_mem_map.mpr ih)

end Tree

theorem built_iff {c : Check} : c.Built ↔ ∃ t : Tree, t.check = c := by
  constructor
  · intro h
    induction h with
    | pass name => exact ⟨.leaf (.pass name), rfl⟩
    | warn name message => exact ⟨.leaf (.warn name message), rfl⟩
    | fail name message => exact ⟨.leaf (.fail name message), rfl⟩
    | @group name checks _ ih =>
      have hchecks : checks ∈ Set.range (List.map Tree.check) := by
        rw [Set.range_list_map]
        exact ih
      obtain ⟨parts, rfl⟩ := hchecks
      exact ⟨.group name parts, Tree.check_group name parts⟩
  · rintro ⟨t, rfl⟩
    exact t.built_check

structure Summarizes (leaves : List Leaf) (verdict : Verdict) (messages : List String) : Prop where
  bounds : ∀ l ∈ leaves, l.verdict ≤ verdict
  attained : verdict = .success ∨ ∃ l ∈ leaves, l.verdict = verdict
  spoken : List.Forall₂ (fun l message => l.message? = some message)
    (leaves.filter fun l => l.verdict != .success)
    messages

theorem spoken_filterMap (leaves : List Leaf) :
    List.Forall₂ (fun l message => l.message? = some message)
      (leaves.filter fun l => l.verdict != .success)
      (leaves.filterMap Leaf.message?) := by
  induction leaves with
  | nil => exact .nil
  | cons l leaves ih =>
    cases l with
    | pass name => exact ih
    | warn name message => exact .cons rfl ih
    | fail name message => exact .cons rfl ih

end Check

open Check (Leaf Tree Summarizes)

inductive Appraisal where
  | check (t : Tree)
  | host (domain hostname : String) (parts : List Tree) (observedAt : Instant)
  | policy (mode : MtaSts.Mode) (patterns : List String) (maxAge : UInt64)
      (recordId : Option String)
      (parts : List Tree)

namespace Appraisal

def leaves : Appraisal → List Leaf
  | check t => t.leaves
  | host _ _ parts _ => parts.flatMap Tree.leaves
  | policy _ _ _ _ parts => parts.flatMap Tree.leaves

def verdict : Appraisal → Verdict
  | check t => t.check.verdict
  | host domain hostname parts observedAt =>
      (HostReport.observed domain hostname (parts.map Tree.check) observedAt).verdict
  | policy mode patterns maxAge recordId parts =>
      (PolicyReport.ofChecks mode patterns maxAge recordId (parts.map Tree.check)).verdict

def messages : Appraisal → List String
  | check t => t.check.allMessages
  | host domain hostname parts observedAt =>
      (HostReport.observed domain hostname (parts.map Tree.check) observedAt).messages
  | policy mode patterns maxAge recordId parts =>
      (PolicyReport.ofChecks mode patterns maxAge recordId
        (parts.map Tree.check)).result.allMessages

def tree : Appraisal → Tree
  | check t => t
  | host _ hostname parts _ => .group hostname parts
  | policy _ _ _ _ parts => .group Check.mtaSts parts

theorem leaves_tree (a : Appraisal) : a.tree.leaves = a.leaves := by
  cases a with
  | check t => rfl
  | host domain hostname parts observedAt => exact Tree.leaves_group hostname parts
  | policy mode patterns maxAge recordId parts => exact Tree.leaves_group Check.mtaSts parts

theorem verdict_tree (a : Appraisal) : a.tree.check.verdict = a.verdict := by
  cases a with
  | check t => rfl
  | host domain hostname parts observedAt =>
    rw [tree, Tree.check_group]
    rfl
  | policy mode patterns maxAge recordId parts =>
    rw [tree, Tree.check_group]
    rfl

theorem allMessages_tree (a : Appraisal) : a.tree.check.allMessages = a.messages := by
  cases a with
  | check t => rfl
  | host domain hostname parts observedAt =>
    rw [tree, Tree.check_group, Check.allMessages_group]
    rfl
  | policy mode patterns maxAge recordId parts =>
    rw [tree, Tree.check_group]
    rfl

theorem verdict_le_iff {v : Verdict} (a : Appraisal) :
    a.verdict ≤ v ↔ ∀ l ∈ a.leaves, l.verdict ≤ v := by
  rw [← verdict_tree, ← leaves_tree]
  exact a.tree.verdict_check_le_iff

theorem verdict_eq_worst (a : Appraisal) : a.verdict = .worst (a.leaves.map Leaf.verdict) := by
  refine Verdict.eq_of_forall_le_iff fun v => ?_
  rw [verdict_le_iff, Verdict.worst_le_iff, List.forall_mem_map]

theorem messages_eq (a : Appraisal) : a.messages = a.leaves.filterMap Leaf.message? := by
  rw [← allMessages_tree, ← leaves_tree, Tree.allMessages_check]

theorem summarizes (a : Appraisal) : Summarizes a.leaves a.verdict a.messages where
  bounds := a.verdict_le_iff.mp (Verdict.le_refl _)
  attained := by
    rw [verdict_eq_worst]
    exact (Verdict.worst_mem _).imp id List.mem_map.mp
  spoken := by
    rw [messages_eq]
    exact Check.spoken_filterMap _

theorem messages_eq_nil_iff (a : Appraisal) : a.messages = [] ↔ a.verdict = .success := by
  rw [← allMessages_tree, ← verdict_tree]
  exact a.tree.built_check.success_iff_silent.symm

theorem verdict_eq_of_perm {a b : Appraisal} (h : a.leaves.Perm b.leaves) :
    a.verdict = b.verdict := by
  refine Verdict.eq_of_forall_le_iff fun v => ?_
  rw [verdict_le_iff, verdict_le_iff]
  exact forall_congr' fun l => by rw [h.mem_iff]

theorem messages_perm {a b : Appraisal} (h : a.leaves.Perm b.leaves) :
    a.messages.Perm b.messages := by
  rw [messages_eq, messages_eq]
  exact h.filterMap Leaf.message?

/-- Checks that are made as such are those of trees, and all that is made of trees sums up its
leaves. Groups do not matter to it, nor does the kind of report, and the order of the leaves only to
the order of the messages. -/
theorem leaves_are_summarized :
    (∀ c : Check, c.Built ↔ ∃ t : Tree, t.check = c) ∧
    (∀ a : Appraisal, Summarizes a.leaves a.verdict a.messages ∧
      (a.messages = [] ↔ a.verdict = .success)) ∧
    ∀ a b : Appraisal, a.leaves.Perm b.leaves →
      a.verdict = b.verdict ∧ a.messages.Perm b.messages ∧
      (a.leaves = b.leaves → a.messages = b.messages) := by
  refine ⟨fun c => Check.built_iff, fun a => ⟨a.summarizes, a.messages_eq_nil_iff⟩,
    fun a b hperm => ?_⟩
  refine ⟨verdict_eq_of_perm hperm, messages_perm hperm, fun hleaves => ?_⟩
  rw [messages_eq, messages_eq, hleaves]

theorem regrouped_leaves_weigh_the_same :
    let port : Tree := .leaf (.pass "port")
    let banner : Tree := .leaf (.warn "banner" "Slow banner")
    let version : Tree := .leaf (.fail "version" "Old version")
    let c : Appraisal :=
      .check (.group "mail" [.group "greeting" [port, banner], .group "names" [], version])
    let host : Appraisal :=
      .host "a.test" "mx.a.test" [version,
        .group "greeting" [.group "first" [banner]], port] default
    let policy : Appraisal :=
      .policy .testing ["*.a.test"] 86400 none [port, .group "rest" [banner, version]]
    (c.leaves.Perm host.leaves ∧ c.verdict = host.verdict ∧ c.messages.Perm host.messages) ∧
      (c.leaves = policy.leaves ∧ c.verdict = policy.verdict ∧ c.messages = policy.messages) ∧
      c.verdict = .failure ∧ c.messages = ["Slow banner", "Old version"] ∧
      host.messages = ["Old version", "Slow banner"] := by
  intro port banner version c host policy
  have hperm : c.leaves.Perm host.leaves := by decide
  have hleaves : c.leaves = policy.leaves := rfl
  obtain ⟨-, -, hsame⟩ := leaves_are_summarized
  obtain ⟨hhost, hmessages, -⟩ := hsame c host hperm
  obtain ⟨hpolicy, -, hequal⟩ := hsame c policy (hleaves ▸ .refl _)
  exact ⟨⟨hperm, hhost, hmessages⟩, ⟨hleaves, hpolicy, hequal hleaves⟩, rfl, rfl, rfl⟩

end Appraisal

end MailAudit
