import MailAudit.Json.Decoder
import MailAudit.Json.Printer
import MailAudit.Json.Reader

namespace MailAudit

inductive Verdict where
  | success
  | warning
  | failure
  deriving DecidableEq, Repr

namespace Verdict

def rank : Verdict → Nat
  | .success => 0
  | .warning => 1
  | .failure => 2

instance : LE Verdict where
  le a b := a.rank ≤ b.rank

instance (a b : Verdict) : Decidable (a ≤ b) :=
  inferInstanceAs (Decidable (a.rank ≤ b.rank))

def worse (a b : Verdict) : Verdict :=
  if a ≤ b then b else a

/-- The worst of the verdicts; nothing to judge is a success. -/
def worst (vs : List Verdict) : Verdict :=
  vs.foldr worse .success

def word : Verdict → String
  | .success => "success"
  | .warning => "warning"
  | .failure => "failure"

def ofWord? (w : String) : Option Verdict :=
  if w = "success" then some .success
  else if w = "warning" then some .warning
  else if w = "failure" then some .failure
  else none

def isSuccess (v : Verdict) : Bool := v == .success

def isFailure (v : Verdict) : Bool := v == .failure

def sort (vs : List Verdict) : List Verdict :=
  vs.mergeSort fun a b => a ≤ b

def toJson (v : Verdict) : Json := .text v.word

def ofJson? (budget : Nat) (v : Json) : Option Verdict :=
  (v.enumWord? budget).bind ofWord?

end Verdict

end MailAudit
