import MailAudit.Proofs.DomainCheck.Crew
import MailAudit.Proofs.DomainCheck.Tracking

/-! Checks in a window: they go on side by side over one world and are handed on in the order of
their domains. The checks handed on and those in the window are at any moment the checks of the
first domains, in their order. -/

namespace MailAudit

namespace DomainCheck

namespace Inquiry

/-- The moves of one inquiry in their order. Others may change the world between them. -/
inductive LeadsTo (s : Services) (q₀ : Inquiry) : Inquiry → Prop
  | refl : LeadsTo s q₀ q₀
  | tail {q w m r v} : LeadsTo s q₀ q → q.step? s w m = some (r, v) → LeadsTo s q₀ r

variable {s : Services} {q r : Inquiry} {w v : World} {m : Move} {name domain : String}
  {expected : List String}

theorem answerAt_of_step? (h : q.step? s w m = some (r, v)) (i : Nat) : q.answerAt i = [] := by
  cases q with
  | answered result => cases h
  | _ => rfl

end Inquiry

namespace Convoy

variable {s : Services} {c c' : Convoy}

inductive Step (s : Services) (c : Convoy) : Move → Convoy → Prop
  | enter {domain pending} (hp : c.pending = domain :: pending)
      (hroom : c.crew.inquiries.length < c.limit) :
      Step s c .enter { c with
        pending, crew := ⟨c.crew.inquiries ++ [.asked domain []], c.crew.world⟩ }
  | act {i q m r v} (hq : c.crew.inquiries[i]? = some q)
      (hstep : q.step? s c.crew.world m = some (r, v)) :
      Step s c (.act i m) { c with crew := ⟨c.crew.inquiries.set i r, v⟩ }
  | emit {result inquiries} (hi : c.crew.inquiries = .answered result :: inquiries) :
      Step s c .emit { c with crew := ⟨inquiries, c.crew.world⟩, passed := result :: c.passed }

variable {m : Move}

theorem step_of_step? (h : c.step? s m = some c') : Step s c m c' := by
  cases m with
  | enter =>
    simp only [step?, enter?] at h
    split at h
    · cases h
    · rename_i domain pending hp
      split at h
      · rename_i hroom
        cases h
        exact .enter hp hroom
      · cases h
  | act i m =>
    obtain ⟨crew, hcrew, rfl⟩ := Option.map_eq_some_iff.mp h
    obtain ⟨q, r, v, hq, hstep, rfl⟩ := Crew.exists_of_step? hcrew
    exact .act hq hstep
  | emit =>
    simp only [step?, emit?] at h
    split at h
    · rename_i hi
      cases h
      exact .emit hi
    · cases h

inductive Run (s : Services) (c₀ : Convoy) : List Move → List (DomainReport × Nat) → Convoy → Prop
  | refl : Run s c₀ [] [] c₀
  | tail {ms answers c m c'} : Run s c₀ ms answers c → c.step? s m = some c' →
      Run s c₀ (ms ++ [m]) (answers ++ c.answered s m) c'

def Final (c : Convoy) : Prop := c.pending = [] ∧ c.crew.inquiries = []

def entered (c : Convoy) : List Inquiry := c.passed.reverse.map .answered ++ c.crew.inquiries

def answersFrom (k : Nat) (qs : List Inquiry) : List (DomainReport × Nat) :=
  (qs.zipIdx k).flatMap fun (q, i) => q.answerAt i

section AnswersFrom

variable {k i : Nat} {qs : List Inquiry} {q : Inquiry}

theorem answersFrom_append (k : Nat) (qs rs : List Inquiry) :
    answersFrom k (qs ++ rs) = answersFrom k qs ++ answersFrom (k + qs.length) rs := by
  rw [answersFrom, List.zipIdx_append, List.flatMap_append]
  rfl

theorem answersFrom_cons (k : Nat) (q : Inquiry) (qs : List Inquiry) :
    answersFrom k (q :: qs) = q.answerAt k ++ answersFrom (k + 1) qs := by
  rw [answersFrom, List.zipIdx_cons, List.flatMap_cons]
  rfl

theorem answersFrom_set (hq : qs[i]? = some q) (hopen : q.answerAt (k + i) = []) (r : Inquiry) :
    (answersFrom k (qs.set i r)).Perm (answersFrom k qs ++ r.answerAt (k + i)) := by
  obtain ⟨hi, rfl⟩ := List.getElem?_eq_some_iff.mp hq
  obtain ⟨before, after, hqs, rfl, hset⟩ :
      ∃ before after, qs = before ++ qs[i] :: after ∧ before.length = i ∧
        qs.set i r = before ++ r :: after :=
    List.exists_of_set hi
  have hold :
      answersFrom k qs = answersFrom k before ++ answersFrom (k + before.length + 1) after := by
    rw [hqs, answersFrom_append, answersFrom_cons, hopen, List.nil_append]
  rw [hset, hold, answersFrom_append, answersFrom_cons, List.append_assoc]
  exact List.perm_append_comm.append_left _

end AnswersFrom

variable {domains : List String} {answers : List (DomainReport × Nat)} {ms : List Move} {i : Nat}

def Own (s : Services) (domains : List String) (qs : List Inquiry) : Prop :=
  ∀ (i : Nat) (q : Inquiry), qs[i]? = some q →
    ∃ domain, domains[i]? = some domain ∧ Inquiry.LeadsTo s (.asked domain []) q

theorem Own.append_asked {qs : List Inquiry} {domain : String} (h : Own s domains qs)
    (hdomain : domains[qs.length]? = some domain) : Own s domains (qs ++ [.asked domain []]) := by
  intro i q hq
  rcases Nat.lt_or_ge i qs.length with hi | hi
  · rw [List.getElem?_append_left hi] at hq
    exact h i q hq
  · rw [List.getElem?_append_right hi] at hq
    obtain ⟨hzero, hasked⟩ := List.getElem?_eq_some_iff.mp hq
    have hlast : i = qs.length := by
      rw [List.length_singleton] at hzero
      omega
    rw [List.getElem_singleton] at hasked
    exact ⟨domain, hlast ▸ hdomain, hasked ▸ .refl⟩

theorem Own.set {qs : List Inquiry} {q r : Inquiry} {w v : World} {m : Inquiry.Move}
    (h : Own s domains qs) (hq : qs[i]? = some q) (hstep : q.step? s w m = some (r, v)) :
    Own s domains (qs.set i r) := by
  intro j q' hq'
  by_cases hij : i = j
  · subst hij
    rw [List.getElem?_set_self (List.getElem?_eq_some_iff.mp hq).1] at hq'
    cases hq'
    obtain ⟨domain, hdomain, hleads⟩ := h i q hq
    exact ⟨domain, hdomain, hleads.tail hstep⟩
  · rw [List.getElem?_set_ne hij] at hq'
    exact h j q' hq'

/-- Where a run over some domains stands: the last of them wait, each of the others has its inquiry
at its own place, and the answers given are those of these inquiries. -/
structure Lined (s : Services) (domains : List String) (answers : List (DomainReport × Nat))
    (c : Convoy) : Prop where
  pending : c.pending = domains.drop c.entered.length
  own : Own s domains c.entered
  answers : answers.Perm (answersFrom 0 c.entered)
  room : c.crew.inquiries.length ≤ c.limit

theorem length_handedOn (c : Convoy) :
    (c.passed.reverse.map Inquiry.answered).length = c.passed.length := by
  rw [List.length_map, List.length_reverse]

theorem getElem?_entered (c : Convoy) (i : Nat) :
    c.entered[c.passed.length + i]? = c.crew.inquiries[i]? := by
  rw [entered, ← length_handedOn, List.getElem?_append_right (Nat.le_add_right _ _),
    Nat.add_sub_cancel_left]

theorem entered_set (c : Convoy) (i : Nat) (r : Inquiry) (v : World) :
    ({ c with crew := ⟨c.crew.inquiries.set i r, v⟩ } : Convoy).entered =
      c.entered.set (c.passed.length + i) r := by
  rw [entered, entered, ← length_handedOn, List.set_append_right _ _ (Nat.le_add_right _ _),
    Nat.add_sub_cancel_left]

-- The next domain stands at the place behind those that have entered.
theorem Lined.enter (hl : Lined s domains answers c) {domain : String} {pending : List String}
    (hp : c.pending = domain :: pending) (hroom : c.crew.inquiries.length < c.limit) :
    Lined s domains answers { c with
      pending, crew := ⟨c.crew.inquiries ++ [.asked domain []], c.crew.world⟩ } := by
  have hentered : ({ c with
      pending, crew := ⟨c.crew.inquiries ++ [.asked domain []], c.crew.world⟩ } : Convoy).entered =
      c.entered ++ [.asked domain []] := (List.append_assoc _ _ _).symm
  have hdrop : domains.drop c.entered.length = domain :: pending := hl.pending.symm.trans hp
  constructor
  case pending =>
    rw [hentered, List.length_append, ← List.drop_drop, hdrop]
    rfl
  case own =>
    rw [hentered]
    apply hl.own.append_asked
    rw [← List.head?_drop, hdrop, List.head?_cons]
  case answers =>
    rw [hentered, answersFrom_append]
    exact List.append_nil answers ▸ hl.answers.append_right []
  case room =>
    rw [List.length_append]
    exact hroom

theorem Lined.act (hl : Lined s domains answers c) {q r : Inquiry} {v : World} {m : Inquiry.Move}
    (hq : c.crew.inquiries[i]? = some q) (hstep : q.step? s c.crew.world m = some (r, v)) :
    Lined s domains (answers ++ r.answerAt (c.passed.length + i))
      { c with crew := ⟨c.crew.inquiries.set i r, v⟩ } := by
  have hplace : c.entered[c.passed.length + i]? = some q := (getElem?_entered c i).trans hq
  constructor
  case pending =>
    rw [entered_set, List.length_set]
    exact hl.pending
  case own =>
    rw [entered_set]
    exact hl.own.set hplace hstep
  case answers =>
    rw [entered_set]
    have hset := answersFrom_set (k := 0) hplace (Inquiry.answerAt_of_step? hstep _) r
    rw [Nat.zero_add] at hset
    exact (hl.answers.append_right _).trans hset.symm
  case room =>
    rw [List.length_set]
    exact hl.room

-- Handing on moves the boundary within the list of those that have entered, not the list.
theorem Lined.emit (hl : Lined s domains answers c) {result : Result} {inquiries : List Inquiry}
    (hi : c.crew.inquiries = .answered result :: inquiries) :
    Lined s domains answers
      { c with crew := ⟨inquiries, c.crew.world⟩, passed := result :: c.passed } := by
  have hentered : ({ c with crew := ⟨inquiries, c.crew.world⟩, passed := result :: c.passed } :
      Convoy).entered = c.entered := by
    rw [entered, entered, hi, List.reverse_cons, List.map_append, List.append_assoc]
    rfl
  have hroom := hl.room
  rw [hi, List.length_cons] at hroom
  constructor
  case pending => exact hentered ▸ hl.pending
  case own => exact hentered ▸ hl.own
  case answers => exact hentered ▸ hl.answers
  case room => exact Nat.le_of_succ_le hroom

def work (s : Services) (c : Convoy) : Nat :=
  sumOf (c.pending.map fun domain => (Inquiry.asked domain []).work s + 2) + c.crew.work s +
    c.crew.inquiries.length

theorem work_step_lt (h : Step s c m c') : c'.work s < c.work s := by
  cases h with
  | @enter domain pending hp hroom =>
    simp only [work, hp, Crew.work, List.map_append, List.map_cons, List.map_nil, sumOf_append,
      sumOf, List.length_append, List.length_singleton]
    omega
  | @act i q m r v hq hstep =>
    have hlt := Inquiry.work_step_lt (Inquiry.step_of_step? hstep)
    have hsum := sumOf_set (Inquiry.work s) hq r
    simp only [work, Crew.work, List.length_set]
    omega
  | emit hi =>
    simp only [work, Crew.work, hi, List.map_cons, sumOf, List.length_cons]
    omega

theorem Run.length_add_work_le {c₀ : Convoy} (h : Run s c₀ ms answers c) :
    ms.length + c.work s ≤ c₀.work s := by
  induction h with
  | refl => exact Nat.le_of_eq (Nat.zero_add _)
  | tail _ hstep ih =>
    have hlt := work_step_lt (step_of_step? hstep)
    rw [List.length_append, List.length_singleton]
    omega

theorem work_start (limit : Nat) (domains : List String) (world : World) :
    (start limit domains world).work s =
      sumOf (domains.map fun domain => 4 * (chosen s (HostName.normalize domain) []).length + 4) :=
  rfl

theorem exists_move (hlimit : 1 ≤ c.limit) (hopen : ¬ c.Final) :
    ∃ m, (c.step? s m).isSome = true := by
  cases hi : c.crew.inquiries with
  | cons q inquiries =>
    cases hanswered : q.isAnswered with
    | true =>
      cases q with
      | answered result => exact ⟨.emit, by simp only [step?, emit?, hi, Option.isSome_some]⟩
      | _ => cases hanswered
    | false =>
      obtain ⟨m, hm, -⟩ := Inquiry.exists_move (s := s) c.crew.world hanswered
      have hfirst : c.crew.inquiries[0]? = some q := by rw [hi, List.getElem?_cons_zero]
      exact ⟨.act 0 m, by simpa only [step?, Crew.step?, hfirst, Option.isSome_map] using hm⟩
  | nil =>
    cases hp : c.pending with
    | nil => exact absurd ⟨hp, hi⟩ hopen
    | cons domain pending =>
      have hroom : c.crew.inquiries.length < c.limit := hi ▸ hlimit
      exact ⟨.enter, by simp only [step?, enter?, hp, if_pos hroom, Option.isSome_some]⟩

variable {c₀ : Convoy} {ms' : List Move} {answers' : List (DomainReport × Nat)}

theorem Run.trans (h : Run s c₀ ms answers c) (h' : Run s c ms' answers' c') :
    Run s c₀ (ms ++ ms') (answers ++ answers') c' := by
  induction h' with
  | refl => rwa [List.append_nil, List.append_nil]
  | tail _ hstep ih =>
    rw [← List.append_assoc, ← List.append_assoc]
    exact ih.tail hstep

theorem exists_run_of_inquiry {i : Nat} {q r : Inquiry} {v : World} {ms : List Inquiry.Move}
    (hq : c.crew.inquiries[i]? = some q) (h : Inquiry.Run s q c.crew.world ms r v) :
    ∃ answers,
    Run s c (ms.map (.act i)) answers { c with crew := ⟨c.crew.inquiries.set i r, v⟩ } := by
  obtain ⟨hi, hget⟩ := List.getElem?_eq_some_iff.mp hq
  induction h with
  | refl =>
    subst hget
    rw [List.set_getElem_self hi]
    exact ⟨[], .refl⟩
  | @tail ms q' w m r v _ hstep _ ih =>
    obtain ⟨answers, hrun⟩ := ih
    have hq' : (c.crew.inquiries.set i q')[i]? = some q' := List.getElem?_set_self hi
    have hmove : ({ c with crew := ⟨c.crew.inquiries.set i q', w⟩ } : Convoy).step? s (.act i m) =
        some { c with crew := ⟨c.crew.inquiries.set i r, v⟩ } := by
      simp only [step?, Crew.step?, hq', hstep, Option.map_some, List.set_set]
    rw [List.map_append]
    exact ⟨_, hrun.tail hmove⟩

theorem Run.head {m : Move} (hstep : c₀.step? s m = some c) (h : Run s c ms answers c') :
    Run s c₀ (m :: ms) (c₀.answered s m ++ answers) c' :=
  (Run.refl.tail hstep).trans h

def follow? (s : Services) (c : Convoy) : List Move → Option (List (DomainReport × Nat) × Convoy)
  | [] => some ([], c)
  | m :: ms =>
      match c.step? s m with
      | none => none
      | some c' => (c'.follow? s ms).map fun (answers, c'') => (c.answered s m ++ answers, c'')

theorem run_of_follow? (h : c.follow? s ms = some (answers, c')) : Run s c ms answers c' := by
  induction ms generalizing c answers with
  | nil =>
    cases h
    exact .refl
  | cons m ms ih =>
    simp only [follow?] at h
    split at h
    · cases h
    · rename_i next hstep
      obtain ⟨⟨answers', c''⟩, hrest, heq⟩ := Option.map_eq_some_iff.mp h
      cases heq
      exact Run.head hstep (ih hrest)

end Convoy

end DomainCheck

end MailAudit
