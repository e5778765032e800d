import MailAudit.Program.Run
import MailAudit.Proofs.Batch.Backpressure
import MailAudit.Proofs.PoolSize

namespace MailAudit

open CommandLine Batch

namespace CommandLine.Invocation

end CommandLine.Invocation

namespace Program

variable {m : Machine} {s : Settings} {pool : Pool}

def Failure.SparesPool (s : Settings) (f : Failure) : Prop :=
  f.chain.head? ≠ some "Invalid pool size" ∧
    (f.chain.head? = some "Invalid configuration" →
      ∃ e, s.validate = .error e ∧ ¬e.BlamesPool ∧ f.chain = ["Invalid configuration", e.message])

theorem Failure.sparesPool_of_head {f : Failure} {doing : String} {rest : List String}
    (hchain : f.chain = doing :: rest) (h : doing.toList.head? ≠ some 'I') : f.SparesPool s := by
  have hne {other : String} (hother : other.toList.head? = some 'I') :
      f.chain.head? ≠ some other := by
    rw [hchain]
    rintro ⟨⟩
    exact h hother
  exact ⟨hne rfl, fun hsettings => absurd hsettings (hne rfl)⟩

section

variable {α ε : Type}

theorem onError_attempt {doing : String} (h : doing.toList.head? ≠ some 'I')
    (chain : ε → List String) (x : Except ε α) :
    OnError (Failure.SparesPool s) (attempt doing chain x) := by
  have hany : OnError (fun _ => True) x := fun _ _ => trivial
  exact hany.mapError fun e _ => Failure.sparesPool_of_head rfl h

end

theorem onError_checkSettings (h : Pool.ofSize s.poolSize = .ok pool) :
    OnError (Failure.SparesPool s) (checkSettings s) := by
  have hvalidate : OnError (fun e => s.validate = .error e ∧ ¬e.BlamesPool) s.validate :=
    fun e he => ⟨he, Settings.onError_validate h e he⟩
  refine hvalidate.mapError fun e he => ⟨?_, fun _ => ⟨e, he.1, he.2, rfl⟩⟩
  exact fun hhead => absurd (Option.some.inj hhead) (by decide)

theorem onError_begin (m : Machine) (s : Settings) :
    OnError (Failure.SparesPool s) (begin m s) := by
  have hfailed {α ε : Type} {x : Except ε α} {chain : ε → List String} {notes : ε → List Note} :
      OnError (Failure.SparesPool s)
        (x.mapError fun e => { chain := "Failed to initialize domain checker" :: chain e,
                               notes := notes e }) := by
    have hany : OnError (fun _ => True) x := fun _ _ => trivial
    exact hany.mapError fun e _ => Failure.sparesPool_of_head rfl (by decide)
  exact OnError.bind hfailed fun _ _ => OnError.bind hfailed fun _ _ => .of_ok _

theorem onError_validate (h : Pool.ofSize s.poolSize = .ok pool) (m : Machine) (policies : String)
    (intervalSeconds : Nat) (name : String) :
    OnError (Failure.SparesPool s) (validate m s policies intervalSeconds name) := by
  refine OnError.bind ?_ fun _ _ => .of_ok _
  refine (onError_checkSettings h).bind fun _ _ => ?_
  refine (onError_attempt (by simp [toString]) _ _).bind fun _ _ => ?_
  refine OnError.bind ?_ fun _ _ => .of_ok _
  exact (onError_begin m s).mapError fun _ hspares => hspares

end Program

end MailAudit
