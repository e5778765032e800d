import MailAudit.Check
import MailAudit.MtaSts.Mode

namespace MailAudit

structure PolicyReport where
  mode : MtaSts.Mode
  patterns : List String
  maxAge : UInt64
  recordId : Option String
  result : Check
  deriving Repr

namespace PolicyReport

def ofChecks (mode : MtaSts.Mode) (patterns : List String) (maxAge : UInt64)
    (recordId : Option String) (checks : List Check) : PolicyReport :=
  ⟨mode, patterns, maxAge, recordId, .group Check.mtaSts checks⟩

def verdict (r : PolicyReport) : Verdict := r.result.verdict

def check? (r : PolicyReport) (name : String) : Option Check := r.result.part? name

def toJson (r : PolicyReport) : Json :=
  .object [Json.member "mode" r.mode.toJson, Json.member "mxs" (.texts r.patterns),
    Json.member "max_age" (.nat r.maxAge.toNat),
    Json.member "record_id" ((r.recordId.map Json.text).getD .null),
    Json.member "result" r.result.toJson]

def fieldNames : List String := ["mode", "mxs", "max_age", "record_id", "result"]

def ofJson? : Nat → Json → Option PolicyReport
  | 0, _ => none
  | budget + 1, v => do
      let fields ← v.fields? fieldNames
      let mode ← Json.required? fields "mode" (MtaSts.Mode.ofJson? budget)
      let patterns ← Json.required? fields "mxs" (Json.texts? budget)
      let maxAge ← Json.required? fields "max_age" Json.word?
      let recordId ← Json.nullable? fields "record_id" Json.string?
      let result ← Json.required? fields "result" (Check.ofJson? budget)
      some ⟨mode, patterns, .ofNat maxAge, recordId, result⟩

end PolicyReport

end MailAudit
