
namespace MailAudit

inductive DatabaseError where
  | reported (reason : String)
  | address (reason : String)
  deriving DecidableEq, Repr

namespace DatabaseError

def reason : DatabaseError → String
  | reported reason => reason
  | address reason => reason

def message : DatabaseError → String
  | reported reason => s!"error returned from database: {reason}"
  | address reason => s!"error with configuration: {reason}"

end DatabaseError

inductive StoreError where
  | fileCreation (reason : String)
  | sql (e : DatabaseError)
  | migration (reason : String)
  | serialization (reason : String)
  | unavailable (reason : String)
  deriving DecidableEq, Repr

namespace StoreError

def message : StoreError → String
  | fileCreation reason => s!"Database file creation error: {reason}"
  | sql e => s!"SQL error: {e.message}"
  | migration reason => s!"Migration error: {reason}"
  | serialization reason => s!"Serialization error: {reason}"
  | unavailable reason => s!"Store unavailable: {reason}"

def chain : StoreError → List String
  | sql e => [message (sql e), e.message, e.reason]
  | migration reason => [message (migration reason), reason]
  | serialization reason => [message (serialization reason), reason]
  | e => [e.message]

end StoreError

end MailAudit
