import MailAudit.Batch.Window
import MailAudit.Proofs.DomainCheck.Convoy

namespace MailAudit.Batch.Window

variable {α ρ σ : Type} {f : α → σ → ρ × σ} {w : Window α ρ σ}

open DomainCheck

inductive Shows : Slot String DomainReport → Inquiry → Prop
  | waiting (domain : String) : Shows ⟨domain, none⟩ (.asked domain [])
  | ended (domain : String) (result : Result) :
      Shows ⟨domain, some result.report⟩ (.answered result)

structure Mirrors (w : Window String DomainReport World) (c : Convoy) : Prop where
  limit : w.limit = c.limit
  pending : w.pending = c.pending
  slots : List.Forall₂ Shows w.slots c.crew.inquiries
  emitted : w.emitted = c.passed.map Result.report
  world : w.world = c.crew.world

section Mirrors

variable {s : Services} {w v : Window String DomainReport World} {c : Convoy}
  {slots : List (Slot String DomainReport)}
  {qs : List Inquiry} {i : Nat}

theorem forall₂_shows_set (h : List.Forall₂ Shows slots qs) {slot : Slot String DomainReport}
    {q : Inquiry} (hshows : Shows slot q) (i : Nat) :
    List.Forall₂ Shows (slots.set i slot) (qs.set i q) := by
  induction h generalizing i with
  | nil => exact .nil
  | cons hfirst hrest ih =>
    cases i with
    | zero => exact .cons hshows hrest
    | succ i => exact .cons hfirst (ih i)

theorem asked_of_shows (h : List.Forall₂ Shows slots qs) {domain : String}
    (hi : slots[i]? = some ⟨domain, none⟩) :
    qs[i]? = some (.asked domain []) := by
  induction h generalizing i with
  | nil => cases hi
  | cons hfirst _ ih =>
    cases i with
    | zero =>
      cases hi
      cases hfirst
      rfl
    | succ i => exact ih hi

theorem Mirrors.enter? (hw : Mirrors w c) (h : w.enter? = some v) :
    ∃ ms answers c', Convoy.Run s c ms answers c' ∧ Mirrors v c' := by
  obtain ⟨domain, pending, hp, hroom, rfl⟩ := enter?_eq_some h
  have hp' : c.pending = domain :: pending := hw.pending.symm.trans hp
  have hroom' : c.crew.inquiries.length < c.limit := hw.limit ▸ hw.slots.length_eq ▸ hroom
  have hstep : c.step? s .enter =
      some { c with pending, crew := ⟨c.crew.inquiries ++ [.asked domain []], c.crew.world⟩ } := by
    simp only [Convoy.step?, Convoy.enter?, hp', if_pos hroom']
  refine ⟨_, _, _, Convoy.Run.refl.tail hstep, hw.limit, rfl, ?_, hw.emitted, hw.world⟩
  exact List.rel_append hw.slots (.cons (.waiting domain) .nil)

theorem Mirrors.finish? (hw : Mirrors w c) (h : w.finish? (verdict s) i = some v) :
    ∃ ms answers c', Convoy.Run s c ms answers c' ∧ Mirrors v c' := by
  obtain ⟨domain, hi, rfl⟩ := finish?_eq_some h
  -- One move of the window is a whole check of the convoy, with no other one in between.
  obtain ⟨ms, hcheck⟩ := Inquiry.exists_run s domain [] c.crew.world
  obtain ⟨answers, hrun⟩ := Convoy.exists_run_of_inquiry (asked_of_shows hw.slots hi) hcheck
  refine ⟨_, _, _, hrun, hw.limit, hw.pending, ?_, hw.emitted, ?_⟩
  · rw [hw.world]
    exact forall₂_shows_set hw.slots (.ended domain _) i
  · rw [hw.world]
    rfl

theorem Mirrors.emit? (hw : Mirrors w c) (h : w.emit? = some v) :
    ∃ ms answers c', Convoy.Run s c ms answers c' ∧ Mirrors v c' := by
  obtain ⟨domain, report, slots, hs, rfl⟩ := emit?_eq_some h
  have hslots := hw.slots
  rw [hs, List.forall₂_cons_left_iff] at hslots
  obtain ⟨q, inquiries, hshows, hrest, hi⟩ := hslots
  cases hshows with
  | ended domain result =>
    have hstep : c.step? s .emit =
        some { c with crew := ⟨inquiries, c.crew.world⟩, passed := result :: c.passed } := by
      simp only [Convoy.step?, Convoy.emit?, hi]
    refine ⟨_, _, _, Convoy.Run.refl.tail hstep, hw.limit, hw.pending, hrest, ?_, hw.world⟩
    rw [List.map_cons, hw.emitted]

theorem Mirrors.step? {m : Move} (hw : Mirrors w c) (h : w.step? (verdict s) m = some v) :
    ∃ ms answers c', Convoy.Run s c ms answers c' ∧ Mirrors v c' := by
  cases m with
  | enter => exact hw.enter? h
  | finish i => exact hw.finish? h
  | emit => exact hw.emit? h

end Mirrors

end MailAudit.Batch.Window
