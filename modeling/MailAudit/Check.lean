import MailAudit.Verdict

namespace MailAudit

structure Check where
  name : String
  verdict : Verdict
  messages : List String
  checks : List Check
  deriving Repr

instance : Inhabited Check := ⟨⟨"", .success, [], []⟩⟩

namespace Check

def connectivity : String := "connectivity"
def starttls : String := "starttls"
def version : String := "version"
def certificate : String := "certificate"
def mtaSts : String := "mta-sts"
def mtaStsText : String := "mta-sts-text"
def mtaStsPolicyFile : String := "mta-sts-policy-file"
def mtaStsConsistency : String := "mta-sts-mx-consistency"
def policyList : String := "policy-list"

def pass (name : String) : Check := ⟨name, .success, [], []⟩

def warn (name message : String) : Check := ⟨name, .warning, [message], []⟩

def fail (name message : String) : Check := ⟨name, .failure, [message], []⟩

def group (name : String) (checks : List Check) : Check :=
  ⟨name, .worst (checks.map (·.verdict)), [], checks⟩

def named? (name : String) (checks : List Check) : Option Check :=
  checks.find? (·.name == name)

def part? (c : Check) (name : String) : Option Check :=
  named? name c.checks

mutual

def allMessages : Check → List String
  | ⟨_, _, messages, checks⟩ => messages ++ messagesOf checks

def messagesOf : List Check → List String
  | [] => []
  | c :: cs => allMessages c ++ messagesOf cs

end

mutual

def toJson : Check → Json
  | ⟨name, verdict, messages, checks⟩ =>
      .object (Json.member "name" (.text name) :: Json.member "status" verdict.toJson ::
        ((if messages.isEmpty then [] else [Json.member "messages" (.texts messages)]) ++
          (if checks.isEmpty then [] else [Json.member "checks" (.array (toJsons checks))])))

def toJsons : List Check → List Json
  | [] => []
  | c :: cs => toJson c :: toJsons cs

end

def fieldNames : List String := ["name", "status", "messages", "checks"]

mutual

/-- Reads a check that opens at most as many arrays and objects inside each other as the first
argument says. -/
def ofJson? : Nat → Json → Option Check
  | 0, _ => none
  | budget + 1, v => do
      let fields ← v.fields? fieldNames
      let name ← Json.required? fields "name" Json.string?
      let verdict ← Json.required? fields "status" (Verdict.ofJson? budget)
      let messages ← Json.defaulted? fields "messages" [] (Json.texts? budget)
      let checks ← Json.defaulted? fields "checks" [] (listOfJson? budget)
      some ⟨name, verdict, messages, checks⟩

def listOfJson? : Nat → Json → Option (List Check)
  | budget + 1, .array elements => elements.mapM (ofJson? budget)
  | _, _ => none

end

end Check

end MailAudit
