import MailAudit.Dns.Zone
import MailAudit.Log
import MailAudit.MtaSts.Consistency
import MailAudit.MtaSts.Fetch
import MailAudit.MtaSts.Policy
import MailAudit.MtaSts.Record
import MailAudit.Report.Policy

namespace MailAudit.MtaSts

namespace Audit

def recordName (domain : String) : String := s!"_mta-sts.{domain}"

def recordCheck (answer : Except Dns.LookupError (List String)) : Check × Option String :=
  match answer with
  | .error e => (.warn Check.mtaStsText e.message, none)
  | .ok records =>
      match Record.find records with
      | .ok id => (.pass Check.mtaStsText, some id)
      | .error e => (.warn Check.mtaStsText e.message, none)

def fileCheck (contentType : Option String) : Check :=
  if Fetched.isPlainText contentType then .pass Check.mtaStsPolicyFile
  else
    let shown := contentType.getD "no content type"
    .warn Check.mtaStsPolicyFile s!"Policy file served as {shown}, expected text/plain"

def isInconsistent (r : PolicyReport) : Bool :=
  (r.check? Check.mtaStsConsistency).any fun c => !c.verdict.isSuccess

def report (policy : Policy) (contentType : Option String)
    (answer : Except Dns.LookupError (List String)) (hosts : Keyed HostReport) : PolicyReport :=
  let (record, id) := recordCheck answer
  let consistency := Consistency.check? policy.mode policy.patterns hosts
  .ofChecks policy.mode policy.patterns policy.maxAge id
    (record :: fileCheck contentType :: consistency.toList)

def foundNotes (domain : String) (r : PolicyReport) : List Note :=
  (if isInconsistent r then [.failed .policyInconsistent] else []) ++
    [.reached .policyFound,
      .log .debug .policies
        s!"MTA-STS policy for {domain}: mode={r.mode.word} status={r.verdict.word}"]

/-- No report without a policy that can be fetched and read; a missing record does not stand in the
way. -/
def run (domain url : String) (file : Except FetchError Fetched)
    (answer : Except Dns.LookupError (List String)) (hosts : Keyed HostReport) :
    Option PolicyReport × List Note :=
  match file with
  | .error e =>
      (none, [.log .debug .policies s!"No MTA-STS policy for {domain} at {url}: {e.message}",
        .failed .policyUnavailable])
  | .ok fetched =>
      match Policy.read fetched.body with
      | .error e =>
          (none, [.log .info .policies
            s!"Ignoring unparsable MTA-STS policy for {domain}: {e.message}",
            .failed .policyUnavailable])
      | .ok policy =>
          let r := report policy fetched.contentType answer hosts
          (some r, foundNotes domain r)

end Audit

end MailAudit.MtaSts
