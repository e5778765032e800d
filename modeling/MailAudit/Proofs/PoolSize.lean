import MailAudit.Batch.Scan
import MailAudit.Proofs.MtaSts.Policy
import MailAudit.Proofs.Text.Decimal

namespace MailAudit

namespace Settings

theorem inRange_eq_ok_iff {name : String} {value least greatest : Nat} {done : Unit} :
    inRange name value least greatest = .ok done ↔ least ≤ value ∧ value ≤ greatest := by
  simp only [inRange]
  split
  · exact ⟨nofun, fun h => by omega⟩
  · exact ⟨fun _ => by omega, fun _ => rfl⟩

theorem validate_eq_ok_iff {s : Settings} :
    s.validate = .ok () ↔
      (1 ≤ s.timeoutSeconds ∧ s.timeoutSeconds ≤ longestTimeoutSeconds) ∧
      (1 ≤ s.poolSize ∧ s.poolSize ≤ PoolSize.largest) ∧
      (1 ≤ s.hostConcurrency ∧ s.hostConcurrency ≤ PoolSize.largest) ∧
      (1 ≤ s.smtpPort ∧ s.smtpPort ≤ largestPort) ∧
      isEhloName s.ehloName = true ∧ hasPlaceholder s.policyUrl = true := by
  simp only [validate, MtaSts.Policy.bind_eq_ok_iff, inRange_eq_ok_iff, exists_const]
  cases isEhloName s.ehloName <;> cases hasPlaceholder s.policyUrl <;>
    simp [MtaSts.Policy.bind_eq_ok_iff, pure, Except.pure]

end Settings

namespace PoolSize

variable {text : String} {n : Nat}

end PoolSize

def OnError {ε α : Type} (P : ε → Prop) (x : Except ε α) : Prop := ∀ e, x = .error e → P e

namespace OnError

variable {ε α β : Type} {P : ε → Prop} {x : Except ε α}

theorem of_ok (a : α) : OnError P (.ok a) := by
  intro e he
  cases he

theorem of_error {e : ε} (h : P e) : OnError P (.error e : Except ε α) := by
  rintro e' ⟨⟩
  exact h

theorem bind {f : α → Except ε β} (hx : OnError P x) (hf : ∀ a, x = .ok a → OnError P (f a)) :
    OnError P (x >>= f) := by
  intro e he
  cases x with
  | error e' => exact hx e (congrArg Except.error (Except.error.inj he))
  | ok a => exact hf a rfl e he

theorem map {f : α → β} (hx : OnError P x) : OnError P (x.map f) := by
  intro e he
  cases x with
  | error e' => exact hx e (congrArg Except.error (Except.error.inj he))
  | ok a => cases he

theorem mapError {ε' : Type} {Q : ε' → Prop} {f : ε → ε'} (hx : OnError P x)
    (hf : ∀ e, P e → Q (f e)) :
    OnError Q (x.mapError f) := by
  rintro _ he
  cases x with
  | error e =>
      cases he
      exact hf e (hx e rfl)
  | ok a => cases he

end OnError

def SettingsError.BlamesPool : SettingsError → Prop
  | .outOfRange name _ _ _ => name = "pool_size"
  | .invalid _ _ => False

namespace Settings

variable {s : Settings} {e : SettingsError}

theorem inRange_pool_eq (n : Nat) :
    inRange "pool_size" n 1 PoolSize.largest = (Batch.Pool.ofSize n).map fun _ => () := by
  rw [inRange, Batch.Pool.ofSize]
  by_cases hallowed : 1 ≤ n ∧ n ≤ PoolSize.largest
  · rw [if_neg (by omega), dif_pos hallowed]
    rfl
  · rw [if_pos (by omega), dif_neg hallowed]
    rfl

theorem onError_inRange {name : String} (h : name ≠ "pool_size") (value least greatest : Nat) :
    OnError (fun e => ¬e.BlamesPool) (inRange name value least greatest) := by
  rw [inRange]
  split
  · exact .of_error h
  · exact .of_ok ()

theorem onError_validate {pool : Batch.Pool} (h : Batch.Pool.ofSize s.poolSize = .ok pool) :
    OnError (fun e => ¬e.BlamesPool) s.validate := by
  rw [validate, inRange_pool_eq, h]
  refine (onError_inRange (by decide) _ _ _).bind fun _ _ => ?_
  refine (OnError.of_ok ()).bind fun _ _ => ?_
  refine (onError_inRange (by decide) _ _ _).bind fun _ _ => ?_
  refine (onError_inRange (by decide) _ _ _).bind fun _ _ => ?_
  dsimp only
  split
  · exact OnError.of_error id
  · split
    · exact .of_error id
    · exact .of_ok ()

end Settings

end MailAudit
