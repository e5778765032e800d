import MailAudit.Log
import MailAudit.MtaSts.Policy
import MailAudit.Time.Duration

namespace MailAudit

inductive SettingsError where
  | outOfRange (name : String) (value least greatest : Nat)
  | invalid (name reason : String)
  deriving DecidableEq, Repr

namespace SettingsError

def message : SettingsError → String
  | outOfRange name value least greatest =>
      s!"{name} must be between {least} and {greatest}, got {value}"
  | invalid name reason => s!"Invalid {name}: {reason}"

end SettingsError

inductive LogFormat where
  | plain
  | json
  deriving DecidableEq, Repr

namespace LogFormat

def word : LogFormat → String
  | plain => "plain"
  | json => "json"

def ofWord? (w : String) : Option LogFormat :=
  if w = "plain" then some plain else if w = "json" then some json else none

end LogFormat

namespace PoolSize

def usual : Nat := 16

def largest : Nat := 1024

def ofText (raw : Option String) : Nat × List Note :=
  match raw with
  | none => (usual, [])
  | some text =>
      match Text.Decimal.read? Text.Decimal.maxWord (Text.trimChars text.toList) with
      | some n =>
          if 1 ≤ n && n ≤ largest then (n, [])
          else (usual, [rejected text])
      | none => (usual, [rejected text])
where
  rejected (text : String) : Note :=
    .log .warn .settings s!"Ignoring invalid pool size {Text.quoted text}; using {usual}"

end PoolSize

structure Settings where
  logLevel : Log.Level := .info
  logFormat : LogFormat := .plain
  timeoutSeconds : Nat := 10
  poolSize : Nat := PoolSize.usual
  hostConcurrency : Nat := 8
  cacheExpirySeconds : Nat := 600
  cacheFile : Option String := none
  smtpPort : Nat := 25
  ehloName : String := "localhost"
  policyUrl : String := MtaSts.Policy.defaultTemplate
  deriving DecidableEq, Repr

namespace Settings

def longestTimeoutSeconds : Nat := 300

def largestPort : Nat := 65535

def timeout (s : Settings) : Duration := .ofSeconds s.timeoutSeconds

def cacheExpiry (s : Settings) : Duration := .ofSeconds s.cacheExpirySeconds

def inRange (name : String) (value least greatest : Nat) : Except SettingsError Unit :=
  if value < least ∨ greatest < value then .error (.outOfRange name value least greatest)
  else .ok ()

/-- A name that can stand in a command line of its own: not empty and without blanks. -/
def isEhloName (name : String) : Bool :=
  name != "" && !name.toList.any Text.isBlank

def hasPlaceholder (template : String) : Bool :=
  Text.contains MtaSts.Policy.placeholder.toList template.toList

/-- The settings in the order in which they are judged; the first that is out of bounds is
reported. -/
def validate (s : Settings) : Except SettingsError Unit := do
  inRange "timeout_seconds" s.timeoutSeconds 1 longestTimeoutSeconds
  inRange "pool_size" s.poolSize 1 PoolSize.largest
  inRange "hostname_concurrency" s.hostConcurrency 1 PoolSize.largest
  inRange "smtp_port" s.smtpPort 1 largestPort
  if !isEhloName s.ehloName then
    .error (.invalid "ehlo_hostname" s!"{Text.quoted s.ehloName} is not a hostname")
  if !hasPlaceholder s.policyUrl then
    .error (.invalid "mta_sts_policy_url"
      ("template must contain " ++ MtaSts.Policy.placeholder))

end Settings

end MailAudit
