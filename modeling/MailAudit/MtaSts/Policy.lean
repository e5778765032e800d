import MailAudit.Network
import MailAudit.MtaSts.Mode
import MailAudit.Text.Decimal
import MailAudit.Text.Quoted

/-! MTA-STS policy files: lines of a key and a value. Of repeated keys the first counts, except that
every `mx` line names one more pattern. -/

namespace MailAudit.MtaSts

structure Policy where
  mode : Mode
  maxAge : UInt64
  patterns : List String
  deriving DecidableEq, Repr

inductive PolicyError where
  | malformedLine (line : String)
  | missingVersion
  | unsupportedVersion (version : String)
  | missingMode
  | invalidMode (mode : String)
  | missingMaxAge
  | invalidMaxAge (maxAge : String)
  | maxAgeTooLarge (maxAge : Nat)
  | missingMx (mode : Mode)
  deriving DecidableEq, Repr

namespace Policy

/-- A year of 365.25 days, in seconds. -/
def longestMaxAge : Nat := 31557600

end Policy

namespace PolicyError

def message : PolicyError → String
  | malformedLine line => s!"line {Text.quoted line} is not a key: value pair"
  | missingVersion => "missing version"
  | unsupportedVersion version => s!"unsupported version {Text.quoted version}"
  | missingMode => "missing mode"
  | invalidMode mode => s!"invalid mode {Text.quoted mode}"
  | missingMaxAge => "missing max_age"
  | invalidMaxAge maxAge => s!"invalid max_age {Text.quoted maxAge}"
  | maxAgeTooLarge maxAge => s!"max_age {maxAge} exceeds {Policy.longestMaxAge}"
  | missingMx mode => s!"mode {mode.word} requires at least one mx entry"

end PolicyError

namespace Policy

def entry (line : List Char) : Except PolicyError (List Char × List Char) :=
  match Text.splitOnce ':' line with
  | some (key, value) => .ok (Text.trimChars key, Text.trimChars value)
  | none => .error (.malformedLine (String.ofList line))

def entries (body : List Char) : Except PolicyError (List (List Char × List Char)) :=
  (((Text.lines body).map Text.trimChars).filter fun line => !line.isEmpty).mapM entry

def first? (key : String) (entries : List (List Char × List Char)) : Option String :=
  (entries.lookup key.toList).map String.ofList

def version (entries : List (List Char × List Char)) : Except PolicyError Unit :=
  match first? "version" entries with
  | none => .error .missingVersion
  | some v => if v = "STSv1" then .ok () else .error (.unsupportedVersion v)

def modeOf (entries : List (List Char × List Char)) : Except PolicyError Mode :=
  match first? "mode" entries with
  | none => .error .missingMode
  | some w => ((Mode.ofWord? w).map .ok).getD (.error (.invalidMode w))

def maxAgeOf (entries : List (List Char × List Char)) : Except PolicyError Nat :=
  match first? "max_age" entries with
  | none => .error .missingMaxAge
  | some text =>
      match Text.Decimal.read? Text.Decimal.maxWord text.toList with
      | none => .error (.invalidMaxAge text)
      | some n => if longestMaxAge < n then .error (.maxAgeTooLarge n) else .ok n

def patternsOf (entries : List (List Char × List Char)) : List String :=
  (entries.filter fun (key, _) => key == "mx".toList).filterMap fun (_, value) =>
    let name := HostName.normalize (String.ofList value)
    if name = "" then none else some name

def ofEntries (entries : List (List Char × List Char)) : Except PolicyError Policy := do
  version entries
  let mode ← modeOf entries
  let maxAge ← maxAgeOf entries
  let patterns := patternsOf entries
  if patterns.isEmpty && mode != .none then .error (.missingMx mode)
  else .ok ⟨mode, .ofNat maxAge, patterns⟩

def read (body : String) : Except PolicyError Policy := do
  ofEntries (← entries body.toList)

def placeholder : String := "\x7bdomain\x7d"

def url (template domain : String) : String :=
  String.ofList (Text.replaceAll placeholder.toList domain.toList template.toList)

def defaultTemplate : String := "https://mta-sts.\x7bdomain\x7d/.well-known/mta-sts.txt"

end Policy

end MailAudit.MtaSts
