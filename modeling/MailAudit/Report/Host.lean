import MailAudit.Check
import MailAudit.Keyed
import MailAudit.Time.Rfc3339

namespace MailAudit

structure HostReport where
  domain : String
  hostname : String
  verdict : Verdict
  checks : List Check
  observedAt : Instant
  deriving Repr

namespace HostReport

def observed (domain hostname : String) (checks : List Check) (observedAt : Instant) : HostReport :=
  ⟨domain, hostname, .worst (checks.map (·.verdict)), checks, observedAt⟩

def check? (r : HostReport) (name : String) : Option Check :=
  Check.named? name r.checks

def messages (r : HostReport) : List String :=
  r.checks.flatMap Check.allMessages

def passed (r : HostReport) (name : String) : Bool :=
  (r.check? name).any (·.verdict.isSuccess)

def couldConnect (r : HostReport) : Bool := r.passed Check.connectivity

def supportsStarttls (r : HostReport) : Bool := r.passed Check.starttls

def toJson (r : HostReport) : Json :=
  .object [Json.member "domain" (.text r.domain), Json.member "hostname" (.text r.hostname),
    Json.member "status" r.verdict.toJson, Json.member "checks" (.array (Check.toJsons r.checks)),
    Json.member "timestamp" (.text (Rfc3339.print r.observedAt))]

def fieldNames : List String := ["domain", "hostname", "status", "checks", "timestamp"]

def instantOfJson? (v : Json) : Option Instant :=
  v.string?.bind Rfc3339.read?

/-- The stored verdict is kept as it is. -/
def ofJson? : Nat → Json → Option HostReport
  | 0, _ => none
  | budget + 1, v => do
      let fields ← v.fields? fieldNames
      let domain ← Json.required? fields "domain" Json.string?
      let hostname ← Json.required? fields "hostname" Json.string?
      let verdict ← Json.required? fields "status" (Verdict.ofJson? budget)
      let checks ← Json.required? fields "checks" (Check.listOfJson? budget)
      let observedAt ← Json.required? fields "timestamp" instantOfJson?
      some ⟨domain, hostname, verdict, checks, observedAt⟩

def print (r : HostReport) : String := r.toJson.print

def read? (s : String) : Option HostReport :=
  (Json.parse? s).bind (ofJson? Json.nestingLimit)

end HostReport

end MailAudit
