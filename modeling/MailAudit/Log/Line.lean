import MailAudit.Json.Printer
import MailAudit.Settings
import MailAudit.Text.Terminal
import MailAudit.Time.Instant

namespace MailAudit.Log

namespace Level

def mark : Level → String
  | error => "❌"
  | warn => "⚠️"
  | info => "✔️"
  | debug => "🔍"
  | trace => "🔬"

def colour : Level → Nat
  | error => 31
  | warn => 33
  | info => 32
  | debug => 34
  | trace => 35

end Level

namespace Entry

def targetColour : Nat := 36

def paint (colour : Nat) (text : String) : String := s!"\x1b[{colour}m{text}\x1b[0m"

def plainLine (e : Entry) : String :=
  let target := paint targetColour e.area.target
  let level := paint e.level.colour e.level.name
  s!"{e.level.mark} {target} [{level}] {e.message}"

def jsonLine (time : Instant) (e : Entry) : String :=
  let quoted := (Json.text e.message).print
  s!"\x7b\"ts\":{time.milliseconds},\"level\":\"{e.level.name}\",\"target\":\"{e.area.target}\"," ++
    s!"\"msg\":{quoted}\x7d"

/-- The line of an entry. Where colours are of no use, all else that is not to be read is left out
too. -/
def line (format : LogFormat) (coloured : Bool) (time : Instant) (e : Entry) : String :=
  let line := match format with
    | .plain => e.plainLine
    | .json => e.jsonLine time
  if coloured then line ++ "\n" else Text.Terminal.withoutControls (line ++ "\n")

end Entry

def styleVariable : String := "RUST_LOG_STYLE"

def colourVariables : List String := ["NO_COLOR", "CLICOLOR_FORCE", "CLICOLOR", "TERM", "CI"]

def isColoured (lookUp : String → Option String) (isTerminal : Bool) : Bool :=
  let isSet (name : String) : Bool := (lookUp name).any (· != "")
  match lookUp styleVariable with
  | some "always" => true
  | some "never" => false
  | _ =>
      if isSet "NO_COLOR" then false
      else if isSet "CLICOLOR_FORCE" then true
      else if lookUp "CLICOLOR" == some "0" then false
      else
        isTerminal && ((lookUp "TERM").any (· != "dumb") || (lookUp "CLICOLOR").isSome ||
          (lookUp "CI").isSome)

end MailAudit.Log
