import MailAudit.Http.Response
import MailAudit.Network

namespace MailAudit.MtaSts

inductive FetchError where
  | connect (e : ConnectError)
  | noResponse
  | cut
  | status (code : Nat)
  | tooLarge
  | notUtf8
  deriving DecidableEq, Repr

structure Fetched where
  body : String
  contentType : Option String
  deriving DecidableEq, Repr

namespace Fetched

def maxBytes : Nat := 65536

def userAgent : String := "starttls_check/0.1.0"

end Fetched

namespace FetchError

def message : FetchError → String
  | connect e => s!"request failed: {e.message}"
  | noResponse => "request failed: no response"
  | cut => "request failed: the body is incomplete"
  | status code => s!"HTTP status {code}"
  | tooLarge => s!"policy body exceeds {Fetched.maxBytes} bytes"
  | notUtf8 => "policy body is not UTF-8"

end FetchError

namespace Fetched

def collect (read : List UInt8) : List (List UInt8) → Except FetchError (List UInt8)
  | [] => .ok read
  | chunk :: rest =>
      if maxBytes < read.length + chunk.length then .error .tooLarge
      else collect (read ++ chunk) rest

def ofResponse (r : Http.Response) : Except FetchError Fetched :=
  if r.status ≠ 200 then .error (.status r.status)
  else if r.declaredLength.any fun n => maxBytes < n then .error .tooLarge
  else
    match collect [] r.chunks with
    | .error e => .error e
    | .ok bytes =>
        if !r.whole then .error .cut
        else
          match Text.Utf8.decode? bytes with
          | none => .error .notUtf8
          | some body => .ok ⟨body, r.contentType⟩

def fetch (reply : Except ConnectError (List UInt8)) : Except FetchError Fetched :=
  match reply with
  | .error e => .error (.connect e)
  | .ok bytes =>
      match Http.Response.read? bytes with
      | none => .error .noResponse
      | some r => ofResponse r

def isPlainText (contentType : Option String) : Bool :=
  contentType.any fun t =>
    let kind := (Text.splitAll ';' t.toList).headD []
    Text.equalIgnoringCase (Text.trimChars kind) "text/plain".toList

end Fetched

end MailAudit.MtaSts
