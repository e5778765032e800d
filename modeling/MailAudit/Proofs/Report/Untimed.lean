import MailAudit.Proofs.Keyed
import MailAudit.Report.Domain

namespace MailAudit

namespace HostReport

def untimed (r : HostReport) : HostReport := { r with observedAt := default }

@[simp] theorem untimed_untimed (r : HostReport) : r.untimed.untimed = r.untimed := rfl

@[simp] theorem untimed_observed (domain hostname : String) (checks : List Check) (t : Instant) :
    (observed domain hostname checks t).untimed = observed domain hostname checks default := rfl

theorem map_untimed_map_untimed (hosts : Keyed HostReport) :
    (hosts.map untimed).map untimed = hosts.map untimed := by
  refine Keyed.ext_get? fun k => ?_
  simp only [Keyed.get?_map, Option.map_map]
  rfl

end HostReport

namespace DomainReport

def untimed (r : DomainReport) : DomainReport :=
  { r with hosts := r.hosts.map HostReport.untimed, observedAt := default }

theorem decisive_map_untimed (hosts : Keyed HostReport) (policy : Option PolicyReport) :
    decisive (hosts.map HostReport.untimed) policy = decisive hosts policy := by
  have hvalues : (hosts.map HostReport.untimed).values.map (·.verdict) =
      hosts.values.map (·.verdict) := by
    rw [Keyed.values_map, List.map_map]
    rfl
  rw [decisive, hvalues, decisive]

theorem untimed_ofChecks (domain : String) (mxHosts preferredHosts : List String)
    (hosts : Keyed HostReport) (policy : Option PolicyReport) (now : Instant) :
    (ofChecks domain mxHosts preferredHosts hosts policy now).untimed =
      ofChecks domain mxHosts preferredHosts (hosts.map HostReport.untimed) policy default := by
  have hempty : (hosts.map HostReport.untimed).isEmpty = hosts.isEmpty := by
    simp only [Keyed.isEmpty, Keyed.map, List.isEmpty_map]
  simp only [ofChecks, hempty, decisive_map_untimed]
  split <;> rfl

end DomainReport

end MailAudit
