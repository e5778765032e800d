import MailAudit.Report.Host
import MailAudit.Report.Policy

namespace MailAudit

structure DomainReport where
  domain : String
  verdict : Verdict
  message : Option String
  mxHosts : List String
  preferredHosts : List String
  hosts : Keyed HostReport
  policy : Option PolicyReport
  observedAt : Instant
  deriving Repr

namespace DomainReport

def withoutMailService (domain message : String) (now : Instant) : DomainReport :=
  ⟨domain, .failure, some message, [], [], .empty, none, now⟩

def withoutMatchingHosts (domain : String) (mxHosts : List String) (message : String)
    (now : Instant) : DomainReport :=
  { withoutMailService domain message now with mxHosts }

def noHostsChecked : String := "No MX hostnames were checked"

/-- The verdicts that decide about a domain: those of its hosts, and of the policy only the
comparison with the MX records. -/
def decisive (hosts : Keyed HostReport) (policy : Option PolicyReport) : List Verdict :=
  hosts.values.map (·.verdict) ++
    ((policy.bind fun p => p.check? Check.mtaStsConsistency).map (·.verdict)).toList

def ofChecks (domain : String) (mxHosts preferredHosts : List String) (hosts : Keyed HostReport)
    (policy : Option PolicyReport) (now : Instant) : DomainReport :=
  if hosts.isEmpty then
    { withoutMailService domain noHostsChecked now with mxHosts, preferredHosts, policy }
  else
    ⟨domain, .worst (decisive hosts policy), none, mxHosts, preferredHosts, hosts, policy, now⟩

def hasMailService (r : DomainReport) : Bool := !r.hosts.isEmpty

def supportsMtaSts (r : DomainReport) : Bool := r.policy.any (·.verdict.isSuccess)

def messages (r : DomainReport) : List String :=
  r.hosts.values.flatMap HostReport.messages ++
    r.policy.toList.flatMap fun p => p.result.allMessages

def toJson (r : DomainReport) : Json :=
  .object ([Json.member "domain" (.text r.domain), Json.member "status" r.verdict.toJson] ++
    (r.message.map fun m => Json.member "message" (.text m)).toList ++
    [Json.member "mx_hostnames" (.texts r.mxHosts),
      Json.member "preferred_hostnames" (.texts r.preferredHosts),
      Json.member "hostname_results"
        (.object (r.hosts.entries.map fun (key, host) => Json.member key host.toJson))] ++
    (r.policy.map fun p => Json.member "mta_sts" p.toJson).toList ++
    [Json.member "timestamp" (.text (Rfc3339.print r.observedAt))])

def fieldNames : List String :=
  ["domain", "status", "message", "mx_hostnames", "preferred_hostnames", "hostname_results",
    "mta_sts", "timestamp"]

/-- Hosts under equal keys are all read, and the last one stays. -/
def hostsOfJson? : Nat → Json → Option (Keyed HostReport)
  | 0, _ => none
  | budget + 1, v => do
      let entries ← v.entries? (budget + 1)
      let hosts ← entries.mapM fun (key, host) =>
        (HostReport.ofJson? budget host).map fun host => (key, host)
      some (Keyed.ofList hosts)

def ofJson? : Nat → Json → Option DomainReport
  | 0, _ => none
  | budget + 1, v => do
      let fields ← v.fields? fieldNames
      let domain ← Json.required? fields "domain" Json.string?
      let verdict ← Json.required? fields "status" (Verdict.ofJson? budget)
      let message ← Json.nullable? fields "message" Json.string?
      let mxHosts ← Json.required? fields "mx_hostnames" (Json.texts? budget)
      let preferredHosts ← Json.required? fields "preferred_hostnames" (Json.texts? budget)
      let hosts ← Json.required? fields "hostname_results" (hostsOfJson? budget)
      let policy ← Json.nullable? fields "mta_sts" (PolicyReport.ofJson? budget)
      let observedAt ← Json.required? fields "timestamp" HostReport.instantOfJson?
      some ⟨domain, verdict, message, mxHosts, preferredHosts, hosts, policy, observedAt⟩

def print (r : DomainReport) : String := r.toJson.print

def read? (s : String) : Option DomainReport :=
  (Json.parse? s).bind (ofJson? Json.nestingLimit)

end DomainReport

end MailAudit
