import MailAudit.DomainCheck.Check

/-! Checks of domains step by step, several of them side by side over one world: each may look into
the cache while another one fills it. In a convoy they are handed on in the order of their
domains. -/

namespace MailAudit.DomainCheck

inductive Inquiry where
  | asked (domain : String) (expected : List String)
  | scanning (hosts preferred : List String) (p : Probing)
  | answered (result : Result)
  deriving Repr

namespace Inquiry

inductive Move where
  | prepare
  | scan (move : Probing.Move)
  | conclude
  deriving DecidableEq, Repr

def prepare (s : Services) (domain : String) (expected : List String) (w : World) :
    Inquiry × World :=
  let domain := HostName.normalize domain
  match DomainCheck.prepare s domain expected w with
  | (.settled report, w) => (.answered { report }, finish { report } w)
  | (.hosts all preferred, w) => (.scanning all preferred { domain, pending := preferred }, w)

def conclude (s : Services) (hosts preferred : List String) (p : Probing) (w : World) :
    Inquiry × World :=
  let (result, w) := DomainCheck.conclude s hosts preferred p w
  (.answered result, finish result w)

def step? (s : Services) (q : Inquiry) (w : World) (m : Move) : Option (Inquiry × World) :=
  match q, m with
  | .asked domain expected, .prepare => some (prepare s domain expected w)
  | .scanning hosts preferred p, .scan m =>
      (p.step? s w m).map fun (p, w) => (.scanning hosts preferred p, w)
  | .scanning hosts preferred p, .conclude =>
      if p.isDone then some (conclude s hosts preferred p w) else none
  | _, _ => none

def isAnswered : Inquiry → Bool
  | answered _ => true
  | _ => false

def answerAt (i : Nat) : Inquiry → List (DomainReport × Nat)
  | answered result => [(result.report, i)]
  | _ => []

end Inquiry

structure Crew where
  inquiries : List Inquiry
  world : World

namespace Crew

def start (questions : List (String × List String)) (world : World) : Crew :=
  ⟨questions.map fun (domain, expected) => .asked domain expected, world⟩

def step? (s : Services) (c : Crew) (i : Nat) (m : Inquiry.Move) : Option Crew :=
  match c.inquiries[i]? with
  | none => none
  | some q => (q.step? s c.world m).map fun (q, world) => ⟨c.inquiries.set i q, world⟩

end Crew

/-- At most `limit` checks go on at once. What has been handed on stands with the latest first. -/
structure Convoy where
  limit : Nat
  pending : List String
  crew : Crew
  passed : List Result := []

namespace Convoy

inductive Move where
  | enter
  | act (i : Nat) (move : Inquiry.Move)
  | emit
  deriving DecidableEq, Repr

def start (limit : Nat) (domains : List String) (world : World) : Convoy :=
  { limit, pending := domains, crew := ⟨[], world⟩ }

def enter? (c : Convoy) : Option Convoy :=
  match c.pending with
  | [] => none
  | domain :: pending =>
      if c.crew.inquiries.length < c.limit then
        some { c with pending, crew := ⟨c.crew.inquiries ++ [.asked domain []], c.crew.world⟩ }
      else none

def emit? (c : Convoy) : Option Convoy :=
  match c.crew.inquiries with
  | .answered result :: inquiries =>
      some { c with crew := ⟨inquiries, c.crew.world⟩, passed := result :: c.passed }
  | _ => none

def step? (s : Services) (c : Convoy) : Move → Option Convoy
  | .enter => c.enter?
  | .act i m => (c.crew.step? s i m).map fun crew => { c with crew }
  | .emit => c.emit?

def answered (s : Services) (c : Convoy) : Move → List (DomainReport × Nat)
  | .act i m =>
      match (c.crew.step? s i m).bind fun crew => crew.inquiries[i]? with
      | some q => q.answerAt (c.passed.length + i)
      | none => []
  | _ => []

def reports (c : Convoy) : List DomainReport := c.passed.reverse.map Result.report

end Convoy

end MailAudit.DomainCheck
