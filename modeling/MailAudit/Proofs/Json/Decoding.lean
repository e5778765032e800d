import MailAudit.Json.Decoder
import MailAudit.Proofs.Json.Printed

namespace MailAudit.Json

variable {α β : Type}

theorem depthOfElements_le_iff {elements : List Json} {n : Nat} :
    depthOfElements elements ≤ n ↔ ∀ v ∈ elements, v.depth ≤ n := by
  induction elements with
  | nil => simp [depthOfElements]
  | cons v elements ih => simp [depthOfElements, ih]

theorem depthOfMembers_le_iff {members : List (Option String × Json)} {n : Nat} :
    depthOfMembers members ≤ n ↔ ∀ m ∈ members, m.2.depth ≤ n := by
  induction members with
  | nil => simp [depthOfMembers]
  | cons m members ih => simp [depthOfMembers, ih]

theorem depth_object_le_iff {members : List (Option String × Json)} {n : Nat} :
    (Json.object members).depth ≤ n + 1 ↔ ∀ m ∈ members, m.2.depth ≤ n := by
  rw [depth, Nat.add_le_add_iff_right, depthOfMembers_le_iff]

theorem depth_array_le_iff {elements : List Json} {n : Nat} :
    (Json.array elements).depth ≤ n + 1 ↔ ∀ v ∈ elements, v.depth ≤ n := by
  rw [depth, Nat.add_le_add_iff_right, depthOfElements_le_iff]

def within (n : Nat) (v : Json) (x : α) : Option α :=
  if v.depth ≤ n then some x else none

theorem ite_bind (p : Prop) [Decidable p] (x : α) (f : α → Option β) :
    (if p then some x else none).bind f = if p then f x else none := by
  split <;> rfl

theorem within_map (n : Nat) (v : Json) (x : α) (f : α → β) :
    (within n v x).map f = within n v (f x) := by
  rw [within, within]
  split <;> rfl

theorem mapM_map_of_ite {decode : β → Option α} {encode : α → β} {p : α → Prop} [DecidablePred p]
    {xs : List α} (h : ∀ x ∈ xs, decode (encode x) = if p x then some x else none) :
    (xs.map encode).mapM decode = if ∀ x ∈ xs, p x then some xs else none := by
  induction xs with
  | nil => rfl
  | cons x xs ih =>
      have hrest := ih fun y hy => h y (List.mem_cons_of_mem x hy)
      rw [List.map_cons, List.mapM_cons, h x List.mem_cons_self, hrest,
        Option.bind_eq_bind, ite_bind]
      by_cases hx : p x
      · by_cases hxs : ∀ y ∈ xs, p y
        · rw [if_pos hx, if_pos hxs, if_pos (List.forall_mem_cons.mpr ⟨hx, hxs⟩)]
          rfl
        · rw [if_pos hx, if_neg hxs, if_neg fun hall => hxs (List.forall_mem_cons.mp hall).2]
          rfl
      · rw [if_neg hx, if_neg fun hall => hx (List.forall_mem_cons.mp hall).1]

theorem exists_of_mem_mapM {decode : α → Option β} {l : List α} {ys : List β}
    (h : l.mapM decode = some ys) {y : β} (hy : y ∈ ys) : ∃ v ∈ l, decode v = some y := by
  induction l generalizing ys with
  | nil =>
      cases h
      cases hy
  | cons v l ih =>
      rw [List.mapM_cons] at h
      simp only [Option.bind_eq_bind, Option.bind_eq_some_iff] at h
      obtain ⟨x, hx, xs, hxs, heq⟩ := h
      cases heq
      rcases List.mem_cons.mp hy with rfl | hy
      · exact ⟨v, List.mem_cons_self, hx⟩
      · obtain ⟨u, hu, hdecode⟩ := ih hxs hy
        exact ⟨u, List.mem_cons_of_mem v hu, hdecode⟩

theorem plain_texts (ss : List String) : Plain (.texts ss) := by
  refine .array fun v hv => ?_
  obtain ⟨s, -, rfl⟩ := List.mem_map.mp hv
  exact .text s

theorem depth_texts (ss : List String) : (texts ss).depth = 1 := by
  have hflat : (texts ss).depth ≤ 1 := by
    refine depth_array_le_iff.mpr fun v hv => ?_
    obtain ⟨s, -, rfl⟩ := List.mem_map.mp hv
    exact Nat.le_refl 0
  exact Nat.le_antisymm hflat (Nat.le_add_left 1 _)

theorem string?_text (s : String) : string? (text s) = if True then some s else none := rfl

theorem texts?_texts (n : Nat) (ss : List String) :
    texts? n (.texts ss) = within n (.texts ss) ss := by
  rw [within, depth_texts]
  cases n with
  | zero => rfl
  | succ n =>
      have hread := mapM_map_of_ite (p := fun _ => True) fun s (_ : s ∈ ss) => string?_text s
      rw [if_pos (Nat.le_add_left 1 n)]
      exact hread.trans (if_pos fun _ _ => trivial)

theorem one_le_of_texts? {n : Nat} {v : Json} {ss : List String} (h : texts? n v = some ss) :
    1 ≤ n := by
  cases n with
  | zero => cases h
  | succ n => exact Nat.le_add_left 1 n

def record (fields : List (String × Json)) : Json :=
  .object (fields.map fun f => member f.1 f.2)

theorem plain_record {fields : List (String × Json)} (h : ∀ f ∈ fields, Plain f.2) :
    Plain (record fields) := by
  refine .object ?_ ?_
  · intro m hm
    obtain ⟨f, -, rfl⟩ := List.mem_map.mp hm
    rfl
  · intro m hm
    obtain ⟨f, hf, rfl⟩ := List.mem_map.mp hm
    exact h f hf

theorem depth_record_le_iff {fields : List (String × Json)} {n : Nat} :
    (record fields).depth ≤ n + 1 ↔ ∀ f ∈ fields, f.2.depth ≤ n := by
  rw [record, depth_object_le_iff, List.forall_mem_map]
  rfl

theorem knownMembers?_eq_some {names : List String} {fields : List (String × Json)}
    (hknown : ∀ f ∈ fields, f.1 ∈ names) (hdistinct : (fields.map Prod.fst).Nodup) :
    knownMembers? names (fields.map fun f => member f.1 f.2) = some fields := by
  induction fields with
  | nil => rfl
  | cons f rest ih =>
      obtain ⟨hfresh, hrest⟩ := List.nodup_cons.mp hdistinct
      have hnone : rest.any (·.1 == f.1) = false := by
        refine List.any_eq_false.mpr fun e he heq => ?_
        exact hfresh (List.mem_map.mpr ⟨e, he, by simpa using heq⟩)
      have hmem : f.1 ∈ names := hknown f List.mem_cons_self
      have hrec := ih (fun e he => hknown e (List.mem_cons_of_mem f he)) hrest
      simp only [List.map_cons, member, knownMembers?] at hrec ⊢
      simp [hrec, hmem, hnone]

theorem fields?_record {names : List String} {fields : List (String × Json)}
    (hkeys : (fields.map Prod.fst).Sublist names) (hnames : names.Nodup) :
    (record fields).fields? names = some fields :=
  knownMembers?_eq_some (fun _ hf => hkeys.subset (List.mem_map_of_mem hf)) (hkeys.nodup hnames)

theorem entries?_record (n : Nat) (entries : List (String × Json)) :
    (record entries).entries? (n + 1) = some entries := by
  have hread : (entries.map fun e => member e.1 e.2).mapM
      (fun m : Option String × Json => m.1.map fun name => (name, m.2)) =
      if ∀ e ∈ entries, True then some entries else none := mapM_map_of_ite fun e _ => rfl
  exact hread.trans (if_pos fun _ _ => trivial)

section Fields

variable {fields : List (String × Json)} {name : String} {n : Nat} {v : Json}

theorem required?_of_lookup {decode : Json → Option α} (hlookup : fields.lookup name = some v) :
    required? fields name decode = decode v := by
  rw [required?, hlookup, Option.bind_some]

theorem defaulted?_list {l : List α} {decode : Json → Option (List α)}
    (hlookup : fields.lookup name = if l.isEmpty then none else some v)
    (hdecode : decode v = within n v l) :
    defaulted? fields name [] decode = if l = [] ∨ v.depth ≤ n then some l else none := by
  cases l with
  | nil => simp [defaulted?, hlookup]
  | cons x rest => simp [defaulted?, hlookup, hdecode, within]

theorem nullable?_of_lookup {decode : Json → Option α} (hlookup : fields.lookup name = some v)
    (hnull : v ≠ .null) : nullable? fields name decode = (decode v).map some := by
  rw [nullable?, hlookup]
  split
  · contradiction
  · rename_i heq
    exact absurd (Option.some.inj heq) hnull
  · rename_i heq
    rw [Option.some.inj heq]

theorem nullable?_option {o : Option α} {toJson : α → Json} {decode : Json → Option α}
    (hlookup : fields.lookup name = o.map toJson)
    (hdecode : ∀ x ∈ o, decode (toJson x) = within n (toJson x) x)
    (hnull : ∀ x ∈ o, toJson x ≠ .null) :
    nullable? fields name decode = if ∀ x ∈ o, (toJson x).depth ≤ n then some o else none := by
  cases o with
  | none => simp [nullable?, hlookup]
  | some x =>
      rw [nullable?_of_lookup hlookup (hnull x rfl), hdecode x rfl, within_map]
      simp [within]

theorem of_required?_eq_some {decode : Json → Option α} {x : α}
    (h : required? fields name decode = some x) : ∃ v, decode v = some x := by
  obtain ⟨v, -, hv⟩ := Option.bind_eq_some_iff.mp h
  exact ⟨v, hv⟩

theorem of_defaulted?_eq_some {decode : Json → Option α} {absent x : α}
    (h : defaulted? fields name absent decode = some x) : x = absent ∨ ∃ v, decode v = some x := by
  rw [defaulted?] at h
  split at h
  · exact Or.inl (Option.some.inj h).symm
  · exact Or.inr ⟨_, h⟩

theorem of_nullable?_eq_some {decode : Json → Option α} {x : α}
    (h : nullable? fields name decode = some (some x)) : ∃ v, decode v = some x := by
  rw [nullable?] at h
  split at h
  · cases h
  · cases h
  · obtain ⟨y, hy, heq⟩ := Option.map_eq_some_iff.mp h
    exact ⟨_, heq ▸ hy⟩

end Fields

end MailAudit.Json
