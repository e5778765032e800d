
namespace MailAudit

/-- Entries in strictly ascending order of their keys, code point by code point. -/
structure Keyed (α : Type) where
  entries : List (String × α)
  ascending : entries.Pairwise (·.1 < ·.1)

namespace Keyed

variable {α β : Type}

instance [Repr α] : Repr (Keyed α) where
  reprPrec m n := reprPrec m.entries n

instance [DecidableEq α] : DecidableEq (Keyed α) := fun a b =>
  if h : a.entries = b.entries then
    isTrue (by cases a; cases b; cases h; rfl)
  else isFalse fun e => h (e ▸ rfl)

def empty : Keyed α := ⟨[], List.Pairwise.nil⟩

instance : Inhabited (Keyed α) := ⟨empty⟩

def putEntry (key : String) (value : α) : List (String × α) → List (String × α)
  | [] => [(key, value)]
  | (k, v) :: rest =>
      if key < k then (key, value) :: (k, v) :: rest
      else if key = k then (key, value) :: rest
      else (k, v) :: putEntry key value rest

theorem mem_putEntry {key : String} {value : α} {l : List (String × α)} {e : String × α}
    (h : e ∈ putEntry key value l) : e = (key, value) ∨ e ∈ l := by
  induction l with
  | nil => exact Or.inl (List.mem_singleton.mp h)
  | cons head rest ih =>
      obtain ⟨k, v⟩ := head
      simp only [putEntry] at h
      split at h
      · exact List.mem_cons.mp h
      · split at h
        · exact (List.mem_cons.mp h).imp id (List.mem_cons_of_mem _)
        · rcases List.mem_cons.mp h with h | h
          · exact Or.inr (h ▸ List.mem_cons_self)
          · exact (ih h).imp id (List.mem_cons_of_mem _)

theorem ascending_putEntry {key : String} {value : α} {l : List (String × α)}
    (h : l.Pairwise (·.1 < ·.1)) : (putEntry key value l).Pairwise (·.1 < ·.1) := by
  induction l with
  | nil => exact List.pairwise_singleton _ _
  | cons head rest ih =>
      obtain ⟨k, v⟩ := head
      have hrest := List.pairwise_cons.mp h
      simp only [putEntry]
      split
      · rename_i hlt
        refine List.pairwise_cons.mpr ⟨fun e he => ?_, h⟩
        rcases List.mem_cons.mp he with rfl | he
        · exact hlt
        · exact String.lt_trans hlt (hrest.1 e he)
      · split
        · rename_i _ heq
          exact List.pairwise_cons.mpr ⟨fun e he => heq ▸ hrest.1 e he, hrest.2⟩
        · rename_i hnlt hne
          refine List.pairwise_cons.mpr ⟨fun e he => ?_, ih hrest.2⟩
          rcases mem_putEntry he with rfl | he
          · have hle : k ≤ key := String.not_lt.mp hnlt
            exact Decidable.byContradiction fun hkk =>
              hne (String.le_antisymm (String.not_lt.mp hkk) hle)
          · exact hrest.1 e he

def insert (m : Keyed α) (key : String) (value : α) : Keyed α :=
  ⟨putEntry key value m.entries, ascending_putEntry m.ascending⟩

/-- Of entries with equal keys the last one stays. -/
def ofList (l : List (String × α)) : Keyed α :=
  l.foldl (fun m (key, value) => m.insert key value) empty

def get? (m : Keyed α) (key : String) : Option α := m.entries.lookup key

def keys (m : Keyed α) : List String := m.entries.map (·.1)

def values (m : Keyed α) : List α := m.entries.map (·.2)

def size (m : Keyed α) : Nat := m.entries.length

def isEmpty (m : Keyed α) : Bool := m.entries.isEmpty

def contains (m : Keyed α) (key : String) : Bool := (m.get? key).isSome

def filter (m : Keyed α) (p : String → α → Bool) : Keyed α :=
  ⟨m.entries.filter fun (key, value) => p key value, m.ascending.filter _⟩

def map (m : Keyed α) (f : α → β) : Keyed β :=
  ⟨m.entries.map fun (key, value) => (key, f value),
    List.pairwise_map.mpr (m.ascending.imp fun h => h)⟩

end Keyed

end MailAudit
