import MailAudit.Verdict

namespace MailAudit.MtaSts

inductive Mode where
  | none
  | testing
  | enforce
  deriving DecidableEq, Repr

namespace Mode

def word : Mode → String
  | .none => "none"
  | .testing => "testing"
  | .enforce => "enforce"

def ofWord? (w : String) : Option Mode :=
  if w = "none" then some .none
  else if w = "testing" then some .testing
  else if w = "enforce" then some .enforce
  else Option.none

def toJson (m : Mode) : Json := .text m.word

def ofJson? (budget : Nat) (v : Json) : Option Mode :=
  (v.enumWord? budget).bind ofWord?

end Mode

end MailAudit.MtaSts
