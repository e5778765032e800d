import MailAudit.Http.Response

namespace MailAudit.Http

/-- How the end of a body is made known: by an announced length, by an empty chunk after chunks of
at most some size, or by the end of the connection. -/
inductive Framing where
  | length (announced : Nat)
  | chunked (size : Nat)
  | untilClose
  deriving DecidableEq, Repr

namespace Framing

def bytes (s : String) : List UInt8 := s.toList.map fun c => c.toNat.toUInt8

def lineEnd : List UInt8 := [13, 10]

def header (name : String) (value : List UInt8) : List UInt8 :=
  bytes name ++ bytes ": " ++ value ++ lineEnd

def chunk (content : List UInt8) : List UInt8 :=
  (Nat.toDigits 16 content.length).map (fun c => c.toNat.toUInt8) ++ lineEnd ++ content ++ lineEnd

/-- Chunks of `size + 1` bytes, and a last one of what is left. -/
def chunks (size : Nat) (body : List UInt8) : List UInt8 :=
  if body.isEmpty then []
  else chunk (body.take (size + 1)) ++ chunks size (body.drop (size + 1))
termination_by body.length
decreasing_by
  rename_i h
  have : 0 < body.length := List.length_pos_iff.mpr (by simpa using h)
  simp only [List.length_drop]
  omega

def headers : Framing → List UInt8
  | length n => header "Content-Length" (bytes (Text.Decimal.print n))
  | chunked _ => header "Transfer-Encoding" (bytes "chunked")
  | untilClose => []

def content (f : Framing) (body : List UInt8) : List UInt8 :=
  match f with
  | chunked size => chunks (size - 1) body ++ chunk []
  | _ => body

def response (f : Framing) (status : Nat) (fields : List (String × List UInt8))
    (body : List UInt8) :
    List UInt8 :=
  bytes ("HTTP/1.1 " ++ Text.Decimal.print status ++ " Status") ++ lineEnd ++
    (fields.map fun (name, value) => header name value).flatten ++ f.headers ++ lineEnd ++
    f.content body

end Framing

end MailAudit.Http
