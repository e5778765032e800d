import MailAudit.Program.Run
import MailAudit.Proofs.Batch.JsonLines
import MailAudit.Proofs.Batch.Window
import MailAudit.Proofs.PoolSize

namespace MailAudit.Program

open Batch CommandLine DomainCheck

section Checked

variable (list : Option PolicyList) (reports : List DomainReport) (world : World)

end Checked

section

variable {m : Machine} {s : Settings} {domains : List String} {policyList : Option String}
  {list : Option PolicyList}
  {ready : Ready}

end

end MailAudit.Program
