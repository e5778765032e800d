import MailAudit.Sum

/-! Jobs that are done side by side and handed on in the order in which they were given. A window of
limited size moves over them: a job enters when there is room, may end at any time, and leaves once
it has ended and is the first. -/

namespace MailAudit.Batch

structure Slot (α ρ : Type) where
  job : α
  outcome : Option ρ := none
  deriving Repr

/-- What has been handed on stands with the latest first. -/
structure Window (α ρ σ : Type) where
  limit : Nat
  pending : List α
  slots : List (Slot α ρ) := []
  emitted : List ρ := []
  world : σ

namespace Window

variable {α ρ σ : Type}

inductive Move where
  | enter
  | finish (slot : Nat)
  | emit
  deriving DecidableEq, Repr

def enter? (w : Window α ρ σ) : Option (Window α ρ σ) :=
  match w.pending with
  | [] => none
  | job :: pending =>
      if w.slots.length < w.limit then some { w with pending, slots := w.slots ++ [{ job }] }
      else none

def finish? (work : α → σ → ρ × σ) (w : Window α ρ σ) (i : Nat) : Option (Window α ρ σ) :=
  match w.slots[i]? with
  | some ⟨job, none⟩ =>
      let (outcome, world) := work job w.world
      some { w with slots := w.slots.set i ⟨job, some outcome⟩, world }
  | _ => none

def emit? (w : Window α ρ σ) : Option (Window α ρ σ) :=
  match w.slots with
  | ⟨_, some outcome⟩ :: slots => some { w with slots, emitted := outcome :: w.emitted }
  | _ => none

def step? (work : α → σ → ρ × σ) (w : Window α ρ σ) : Move → Option (Window α ρ σ)
  | .enter => w.enter?
  | .finish i => w.finish? work i
  | .emit => w.emit?

def Slot.work (s : Slot α ρ) : Nat := if s.outcome.isNone then 2 else 1

def work (w : Window α ρ σ) : Nat := 3 * w.pending.length + sumOf (w.slots.map Slot.work)

theorem sum_work_set {slots : List (Slot α ρ)} {i : Nat} {job : α}
    (h : slots[i]? = some ⟨job, none⟩) (outcome : ρ) :
    sumOf ((slots.set i ⟨job, some outcome⟩).map Slot.work) < sumOf (slots.map Slot.work) := by
  have hset := sumOf_set Slot.work h ⟨job, some outcome⟩
  have hopen : Slot.work (⟨job, none⟩ : Slot α ρ) = 2 := rfl
  have hended : Slot.work (⟨job, some outcome⟩ : Slot α ρ) = 1 := rfl
  omega

section Moves

variable {f : α → σ → ρ × σ} {w v : Window α ρ σ} {i : Nat}

theorem enter?_eq_some (h : w.enter? = some v) :
    ∃ job pending, w.pending = job :: pending ∧ w.slots.length < w.limit ∧
      v = { w with pending, slots := w.slots ++ [{ job }] } := by
  simp only [enter?] at h
  split at h
  · cases h
  · rename_i job pending hp
    split at h
    · rename_i hroom
      cases h
      exact ⟨job, pending, hp, hroom, rfl⟩
    · cases h

theorem finish?_eq_some (h : w.finish? f i = some v) :
    ∃ job, w.slots[i]? = some ⟨job, none⟩ ∧
      v = { w with
        slots := w.slots.set i ⟨job, some (f job w.world).1⟩, world := (f job w.world).2 } := by
  simp only [finish?] at h
  split at h
  · rename_i job hi
    cases h
    exact ⟨job, hi, rfl⟩
  · cases h

theorem emit?_eq_some (h : w.emit? = some v) :
    ∃ job outcome slots, w.slots = ⟨job, some outcome⟩ :: slots ∧
      v = { w with slots, emitted := outcome :: w.emitted } := by
  simp only [emit?] at h
  split at h
  · rename_i job outcome slots hs
    cases h
    exact ⟨job, outcome, slots, hs, rfl⟩
  · cases h

end Moves

theorem work_enter?_lt {w v : Window α ρ σ} (h : w.enter? = some v) : v.work < w.work := by
  obtain ⟨job, pending, hp, -, rfl⟩ := enter?_eq_some h
  simp only [work, hp, List.map_append, sumOf_append, List.length_cons]
  simp [sumOf, Slot.work]
  omega

theorem work_finish?_lt {f : α → σ → ρ × σ} {w v : Window α ρ σ} {i : Nat}
    (h : w.finish? f i = some v) : v.work < w.work := by
  obtain ⟨job, hi, rfl⟩ := finish?_eq_some h
  have := sum_work_set hi (f job w.world).1
  simp only [work]
  omega

theorem work_emit?_lt {w v : Window α ρ σ} (h : w.emit? = some v) : v.work < w.work := by
  obtain ⟨job, outcome, slots, hs, rfl⟩ := emit?_eq_some h
  simp only [work, hs, List.map_cons, sumOf]
  simp [Slot.work]

theorem work_lt_of_step? {f : α → σ → ρ × σ} {w v : Window α ρ σ} {m : Move}
    (h : w.step? f m = some v) : v.work < w.work := by
  cases m with
  | enter => exact work_enter?_lt h
  | finish i => exact work_finish?_lt h
  | emit => exact work_emit?_lt h

/-- The moves in the order in which they are tried: jobs enter while there is room, and the first
one ends first. -/
def moves (w : Window α ρ σ) : List Move :=
  .emit :: .enter :: (List.range w.slots.length).map .finish

def advance? (f : α → σ → ρ × σ) (w : Window α ρ σ) : Option (Window α ρ σ) :=
  w.moves.findSome? (w.step? f)

theorem work_lt_of_advance? {f : α → σ → ρ × σ} {w v : Window α ρ σ} (h : w.advance? f = some v) :
    v.work < w.work := by
  obtain ⟨_, _, h⟩ := List.exists_of_findSome?_eq_some h
  exact work_lt_of_step? h

def run (f : α → σ → ρ × σ) (w : Window α ρ σ) : Window α ρ σ :=
  match _h : w.advance? f with
  | none => w
  | some v => v.run f
termination_by w.work
decreasing_by exact work_lt_of_advance? _h

def outcomes (w : Window α ρ σ) : List ρ := w.emitted.reverse

end Window

end MailAudit.Batch
