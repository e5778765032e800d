
namespace MailAudit

def sumOf : List Nat → Nat
  | [] => 0
  | n :: rest => n + sumOf rest

theorem sumOf_append (a b : List Nat) : sumOf (a ++ b) = sumOf a + sumOf b := by
  induction a with
  | nil => simp [sumOf]
  | cons n rest ih =>
      simp only [List.cons_append, sumOf, ih]
      omega

theorem sumOf_set {α : Type} (f : α → Nat) {l : List α} {i : Nat} {a : α} (h : l[i]? = some a)
    (b : α) : sumOf ((l.set i b).map f) + f a = sumOf (l.map f) + f b := by
  induction l generalizing i with
  | nil => simp at h
  | cons c rest ih =>
      cases i with
      | zero =>
          simp only [List.getElem?_cons_zero, Option.some.injEq] at h
          subst h
          simp only [List.set_cons_zero, List.map_cons, sumOf]
          omega
      | succ i =>
          have := ih (i := i) (by simpa using h)
          simp only [List.set_cons_succ, List.map_cons, sumOf]
          omega

theorem sumOf_eraseIdx {α : Type} (f : α → Nat) {l : List α} {i : Nat} {a : α}
    (h : l[i]? = some a) : sumOf ((l.eraseIdx i).map f) + f a = sumOf (l.map f) := by
  induction l generalizing i with
  | nil => simp at h
  | cons c rest ih =>
      cases i with
      | zero =>
          simp only [List.getElem?_cons_zero, Option.some.injEq] at h
          subst h
          simp only [List.eraseIdx_cons_zero, List.map_cons, sumOf]
          omega
      | succ i =>
          have := ih (i := i) (by simpa using h)
          simp only [List.eraseIdx_cons_succ, List.map_cons, sumOf]
          omega

end MailAudit
