import MailAudit.Keyed
import Mathlib.Data.List.Sort
import Mathlib.Data.List.Nodup
import Mathlib.Data.List.Perm.Basic

namespace MailAudit.Keyed

variable {α β : Type}

theorem lookup_cons_eq (k key : String) (value : α) (l : List (String × α)) :
    ((key, value) :: l).lookup k = if k = key then some value else l.lookup k := by
  by_cases h : k = key
  · simp [h]
  · simp [List.lookup_cons, beq_false_of_ne h, h]

theorem lookup_putEntry (key k : String) (value : α) (l : List (String × α)) :
    (putEntry key value l).lookup k = if k = key then some value else l.lookup k := by
  induction l with
  | nil => exact lookup_cons_eq k key value []
  | cons head rest ih =>
      obtain ⟨k', v⟩ := head
      simp only [putEntry]
      split
      · exact lookup_cons_eq k key value _
      · split
        · rename_i heq
          subst heq
          simp only [lookup_cons_eq]
          split <;> rfl
        · rename_i hne
          simp only [lookup_cons_eq, ih]
          by_cases h : k = k'
          · subst h
            simp [Ne.symm hne]
          · simp [h]

@[simp] theorem get?_insert (m : Keyed α) (key k : String) (value : α) :
    (m.insert key value).get? k = if k = key then some value else m.get? k :=
  lookup_putEntry key k value m.entries

theorem nodup_keys (m : Keyed α) : m.keys.Nodup :=
  List.pairwise_map.mpr
    (m.ascending.imp fun {a b} h (e : a.1 = b.1) => String.lt_irrefl b.1 (e ▸ h))

theorem lookup_eq_some_iff {l : List (String × α)} (h : (l.map Prod.fst).Nodup) {k : String}
    {v : α} :
    l.lookup k = some v ↔ (k, v) ∈ l := by
  induction l with
  | nil => simp
  | cons head rest ih =>
      obtain ⟨k', v'⟩ := head
      obtain ⟨hnot, hrest⟩ := List.nodup_cons.mp h
      by_cases hk : k = k'
      · subst hk
        have hfresh : (k, v) ∉ rest := fun hmem => hnot (List.mem_map.mpr ⟨(k, v), hmem, rfl⟩)
        simp [hfresh, eq_comm]
      · simp [lookup_cons_eq, hk, ih hrest]

theorem get?_eq_some_iff {m : Keyed α} {k : String} {v : α} :
    m.get? k = some v ↔ (k, v) ∈ m.entries :=
  lookup_eq_some_iff m.nodup_keys

theorem mem_keys_iff {m : Keyed α} {k : String} : k ∈ m.keys ↔ ∃ v, m.get? k = some v := by
  rw [keys, List.mem_map]
  constructor
  · rintro ⟨⟨key, value⟩, hmem, rfl⟩
    exact ⟨value, get?_eq_some_iff.mpr hmem⟩
  · rintro ⟨value, hget⟩
    exact ⟨(k, value), get?_eq_some_iff.mp hget, rfl⟩

theorem ext_entries {m n : Keyed α} (hmem : ∀ e, e ∈ m.entries ↔ e ∈ n.entries) : m = n := by
  have hnodup (m : Keyed α) : m.entries.Nodup := List.Nodup.of_map _ m.nodup_keys
  have hperm : m.entries.Perm n.entries :=
    (List.perm_ext_iff_of_nodup (hnodup m) (hnodup n)).mpr hmem
  have heq : m.entries = n.entries :=
    hperm.eq_of_pairwise
      (fun a b _ _ hab hba => (String.lt_irrefl _ (String.lt_trans hab hba)).elim)
      m.ascending n.ascending
  cases m
  cases n
  cases heq
  rfl

theorem ext_get? {m n : Keyed α} (h : ∀ k, m.get? k = n.get? k) : m = n := by
  refine ext_entries fun e => ?_
  rw [← get?_eq_some_iff, h, get?_eq_some_iff]

theorem get?_map (f : α → β) (m : Keyed α) (k : String) : (m.map f).get? k = (m.get? k).map f := by
  have hlookup (l : List (String × α)) :
      (l.map fun e => (e.1, f e.2)).lookup k = (l.lookup k).map f := by
    induction l with
    | nil => rfl
    | cons head rest ih =>
        obtain ⟨k', v⟩ := head
        simp only [List.map_cons, lookup_cons_eq, ih]
        split <;> rfl
  exact hlookup m.entries

theorem values_map (f : α → β) (m : Keyed α) : (m.map f).values = m.values.map f := by
  simp only [values, map, List.map_map]
  rfl

theorem values_filter (p : α → Bool) (m : Keyed α) :
    (m.filter fun _ value => p value).values = m.values.filter p := by
  rw [values, values, List.filter_map]
  rfl

theorem get?_filter_eq_some_iff {m : Keyed α} {p : String → α → Bool} {k : String} {v : α} :
    (m.filter p).get? k = some v ↔ m.get? k = some v ∧ p k v = true := by
  rw [get?_eq_some_iff, get?_eq_some_iff]
  exact List.mem_filter

theorem size_filter (m : Keyed α) (p : String → α → Bool) :
    (m.filter p).size + m.keys.countP (fun k => ((m.filter p).get? k).isNone) = m.size := by
  have hgone : ∀ e ∈ m.entries, ((m.filter p).get? e.1).isNone = true ↔ ¬ p e.1 e.2 = true := by
    rintro ⟨k, v⟩ hmem
    have hget : m.get? k = some v := get?_eq_some_iff.mpr hmem
    rw [Option.isNone_iff_eq_none, Option.eq_none_iff_forall_ne_some]
    constructor
    · intro hnone hp
      exact hnone v (get?_filter_eq_some_iff.mpr ⟨hget, hp⟩)
    · intro hp v' hv'
      obtain ⟨hget', hp'⟩ := get?_filter_eq_some_iff.mp hv'
      rw [hget, Option.some_inj] at hget'
      exact hp (hget' ▸ hp')
  have hcount : m.keys.countP (fun k => ((m.filter p).get? k).isNone) =
      m.entries.countP fun e => decide ¬ p e.1 e.2 = true := by
    rw [keys, List.countP_map]
    exact List.countP_congr fun e he => (hgone e he).trans decide_eq_true_iff.symm
  have hlength := m.entries.length_eq_countP_add_countP fun e => p e.1 e.2
  rw [List.countP_eq_length_filter] at hlength
  rw [hcount]
  exact hlength.symm

theorem isEmpty_keys (m : Keyed α) : m.keys.isEmpty = m.isEmpty := List.isEmpty_map

theorem isEmpty_values (m : Keyed α) : m.values.isEmpty = m.isEmpty := List.isEmpty_map

theorem map_insert (f : α → β) (m : Keyed α) (key : String) (value : α) :
    (m.insert key value).map f = (m.map f).insert key (f value) := by
  refine ext_get? fun k => ?_
  simp only [get?_map, get?_insert]
  split <;> rfl

theorem insert_comm (m : Keyed α) {a b : String} (h : a ≠ b) (x y : α) :
    (m.insert a x).insert b y = (m.insert b y).insert a x := by
  refine ext_get? fun k => ?_
  simp only [get?_insert]
  by_cases ha : k = a
  · subst ha
    simp [h]
  · simp [ha]

theorem map_ofList (f : α → β) (l : List (String × α)) :
    (ofList l).map f = ofList (l.map fun e => (e.1, f e.2)) := by
  have hfold (m : Keyed α) :
      (l.foldl (fun m e => m.insert e.1 e.2) m).map f =
        (l.map fun e => (e.1, f e.2)).foldl
          (fun m e => m.insert e.1 e.2) (m.map f) := by
    induction l generalizing m with
    | nil => rfl
    | cons head rest ih => simp only [List.foldl_cons, List.map_cons, ih, map_insert]
  exact hfold empty

theorem ofList_perm {l l' : List (String × α)} (hp : l.Perm l') (hn : (l.map Prod.fst).Nodup) :
    ofList l = ofList l' := by
  have hfold (m : Keyed α) :
      l.foldl (fun m e => m.insert e.1 e.2) m =
        l'.foldl (fun m e => m.insert e.1 e.2) m := by
    induction hp generalizing m with
    | nil => rfl
    | cons e _ ih =>
        simp only [List.foldl_cons]
        exact ih (List.nodup_cons.mp hn).2 _
    | swap a b l =>
        simp only [List.map_cons, List.nodup_cons, List.mem_cons, not_or] at hn
        simp only [List.foldl_cons, insert_comm m hn.1.1]
    | trans hp₁ _ ih₁ ih₂ =>
        rw [ih₁ hn, ih₂ ((hp₁.map Prod.fst).nodup_iff.mp hn)]
  exact hfold empty

theorem lookup_eq_none_of_notMem {l : List (String × α)} {k : String} (h : k ∉ l.map Prod.fst) :
    l.lookup k = none := by
  refine List.lookup_eq_none_iff.mpr fun e he => ?_
  have hne : k ≠ e.1 := fun heq => h (heq ▸ List.mem_map_of_mem he)
  simpa using hne

theorem get?_ofList {l : List (String × α)} (hn : (l.map Prod.fst).Nodup) (k : String) :
    (ofList l).get? k = l.lookup k := by
  have hfold (l : List (String × α)) (hn : (l.map Prod.fst).Nodup) (start : Keyed α) :
      (l.foldl (fun m e => m.insert e.1 e.2) start).get? k = (l.lookup k).or (start.get? k) := by
    induction l generalizing start with
    | nil => rfl
    | cons head rest ih =>
        obtain ⟨key, value⟩ := head
        obtain ⟨hfresh, hrest⟩ := List.nodup_cons.mp hn
        rw [List.foldl_cons, ih hrest, get?_insert, lookup_cons_eq]
        by_cases h : k = key
        · rw [if_pos h, if_pos h, h, lookup_eq_none_of_notMem hfresh]
          rfl
        · rw [if_neg h, if_neg h]
  exact (hfold l hn empty).trans Option.or_none

theorem ofList_entries (m : Keyed α) : ofList m.entries = m :=
  ext_get? fun k => get?_ofList m.nodup_keys k

theorem entries_ofList_perm {l : List (String × α)} (hn : (l.map Prod.fst).Nodup) :
    (ofList l).entries.Perm l := by
  have hentries : (ofList l).entries.Nodup := List.Nodup.of_map _ (ofList l).nodup_keys
  refine (List.perm_ext_iff_of_nodup hentries (List.Nodup.of_map _ hn)).mpr ?_
  rintro ⟨k, v⟩
  rw [← get?_eq_some_iff, get?_ofList hn, lookup_eq_some_iff hn]

theorem keys_ofList_perm {l : List (String × α)} (hn : (l.map Prod.fst).Nodup) :
    (ofList l).keys.Perm (l.map Prod.fst) := (entries_ofList_perm hn).map Prod.fst

theorem mem_entries_ofList {l : List (String × α)} {e : String × α} (h : e ∈ (ofList l).entries) :
    e ∈ l := by
  have hfold (l : List (String × α)) (start : Keyed α)
      (h : e ∈ (l.foldl (fun m e => m.insert e.1 e.2) start).entries) :
        e ∈ l ∨ e ∈ start.entries := by
    induction l generalizing start with
    | nil => exact Or.inr h
    | cons head rest ih =>
        rcases ih (start.insert head.1 head.2) h with h | h
        · exact Or.inl (List.mem_cons_of_mem head h)
        · rcases mem_putEntry h with rfl | h
          · exact Or.inl List.mem_cons_self
          · exact Or.inr h
  rcases hfold l empty h with h | h
  · exact h
  · cases h

end MailAudit.Keyed
