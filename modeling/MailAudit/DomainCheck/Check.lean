import MailAudit.DomainCheck.Hosts
import MailAudit.Network
import MailAudit.MtaSts.Consistency
import MailAudit.Report.Domain

namespace MailAudit.DomainCheck

def noMxRecords : String := "No MX records found"

def noMatchingHosts : String := "none of the MX hostnames match the expected hostnames"

/-- The verdict on a domain, with the probes that were made for it, how many of them were under way
at once, and the hosts with which its policy was looked at, if it was. -/
structure Result where
  report : DomainReport
  probes : List Flight := []
  mostInFlight : Nat := 0
  policyHosts : Option (List String) := none
  deriving Repr

def mxHosts (s : Services) (domain : String) (w : World) : List String × World :=
  let (answer, notes) := s.mx domain
  let w := w.note notes
  match answer with
  | .ok hosts => (HostName.distinct hosts, w)
  | .error e =>
      ([], w.note [.log .warn .domains s!"MX lookup for {domain} failed: {e.message}",
        .failed .mxLookup])

def preferred (expected : List String) (hosts : List String) : List String :=
  if expected.isEmpty then hosts else hosts.filter (MtaSts.Pattern.anyAdmits expected)

inductive Opening where
  | settled (report : DomainReport)
  | hosts (all preferred : List String)

def prepare (s : Services) (domain : String) (expected : List String) (w : World) :
    Opening × World :=
  let (hosts, w) := mxHosts s domain w
  if hosts.isEmpty then
    let (now, w) := (w.note [.failed .noMxRecords]).now s.clock
    (.settled (.withoutMailService domain noMxRecords now), w)
  else if (preferred expected hosts).isEmpty then
    let (now, w) := w.now s.clock
    (.settled (.withoutMatchingHosts domain hosts noMatchingHosts now), w)
  else (.hosts hosts (preferred expected hosts), w)

def conclude (s : Services) (hosts preferred : List String) (p : Probing) (w : World) :
    Result × World :=
  let reports := Keyed.ofList p.reports
  let (policy, notes) := s.policy p.domain reports
  let (now, w) := (w.note notes).now s.clock
  ({ report := .ofChecks p.domain hosts preferred reports policy now
     probes := p.probes
     mostInFlight := p.mostInFlight
     policyHosts := some reports.keys }, w)

def finish (result : Result) (w : World) : World :=
  w.note [.reached .domainChecked,
    .log .debug .domains s!"Checked {result.report.domain}: {result.report.verdict.word}"]

def run (s : Services) (domain : String) (expected : List String) (w : World) : Result × World :=
  let domain := HostName.normalize domain
  match prepare s domain expected w with
  | (.settled report, w) => ({ report }, finish { report } w)
  | (.hosts all preferred, w) =>
      let (p, w) := Probing.run s { domain, pending := preferred } w
      let (result, w) := conclude s all preferred p w
      (result, finish result w)

def verdict (s : Services) (domain : String) (w : World) : DomainReport × World :=
  let (result, w) := run s domain [] w
  (result.report, w)

end MailAudit.DomainCheck
