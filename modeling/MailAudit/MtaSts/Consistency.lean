import MailAudit.Network
import MailAudit.MtaSts.Mode
import MailAudit.Report.Host

namespace MailAudit.MtaSts

namespace Pattern

def hasOneLabelBefore (suffix cs : List Char) : Bool :=
  match Text.splitOnce '.' cs with
  | some (label, rest) => !label.isEmpty && rest == suffix
  | none => false

/-- A pattern stands for itself, or, if it starts with `*.`, for every name that has one label in
the place of the star. -/
def admitsChars (pattern host : List Char) : Bool :=
  if pattern.isEmpty || host.isEmpty then false
  else
    match pattern with
    | '*' :: '.' :: suffix => hasOneLabelBefore suffix host
    | _ => pattern == host

def admits (pattern host : String) : Bool :=
  admitsChars (HostName.normalizeChars pattern.toList) (HostName.normalizeChars host.toList)

def anyAdmits (patterns : List String) (host : String) : Bool :=
  patterns.any fun pattern => admits pattern host

end Pattern

namespace Consistency

def working (hosts : Keyed HostReport) : List String :=
  (hosts.values.filter fun r => r.verdict != .failure).map (·.hostname)

def unmatched (pattern : String) : String :=
  s!"{pattern} appears in the MTA-STS policy but matches no working MX host"

def uncovered (host : String) : String :=
  s!"{host} appears in the MX records but not in the MTA-STS policy"

def problems (patterns : List String) (hosts : Keyed HostReport) : List String :=
  let working := working hosts
  (patterns.filter fun pattern => !working.any (Pattern.admits pattern)).map unmatched ++
    (working.filter fun host => !Pattern.anyAdmits patterns host).map uncovered

def check? (mode : Mode) (patterns : List String) (hosts : Keyed HostReport) : Option Check :=
  match mode, problems patterns hosts with
  | .none, _ => none
  | _, [] => some (.pass Check.mtaStsConsistency)
  | .enforce, ps => some (.fail Check.mtaStsConsistency (String.intercalate "; " ps))
  | .testing, ps => some (.warn Check.mtaStsConsistency (String.intercalate "; " ps))

end Consistency

end MailAudit.MtaSts
