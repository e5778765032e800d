import MailAudit.Text.Blank

namespace MailAudit

namespace HostName

def normalizeChars (cs : List Char) : List Char :=
  (Text.dropEndWhile (· == '.') (Text.trimChars cs)).map Char.toLower

/-- Blanks around the name go first, then the dots at its end; ASCII letters become small. -/
def normalize (name : String) : String :=
  String.ofList (normalizeChars name.toList)

def distinct (names : List String) : List String :=
  ((names.map normalize).filter fun name => name != "").eraseDups

end HostName

inductive Network where
  | routed
  | unreachable
  deriving DecidableEq, Repr

inductive ConnectError where
  | refused
  | networkUnreachable
  /-- Nobody answers while the client waits. -/
  | unanswered
  | other (reason : String)
  deriving DecidableEq, Repr

namespace ConnectError

def message : ConnectError → String
  | refused => "Connection refused (os error 111)"
  | networkUnreachable => "Network is unreachable (os error 101)"
  | unanswered => "Connection timed out"
  | other reason => reason

end ConnectError

namespace Network

def connect {α : Type} (network : Network) (listener : Option α) : Except ConnectError α :=
  match network, listener with
  | .unreachable, _ => .error .networkUnreachable
  | .routed, none => .error .refused
  | .routed, some peer => .ok peer

end Network

end MailAudit
