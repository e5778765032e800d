import MailAudit.Text.Decimal
import MailAudit.Text.Utf8

namespace MailAudit.Http

structure Response where
  status : Nat
  contentType : Option String
  declaredLength : Option Nat
  chunks : List (List UInt8)
  /-- Whether the body came to its end as announced. -/
  whole : Bool
  deriving DecidableEq, Repr

namespace Response

def splitLine : List UInt8 → Option (List UInt8 × List UInt8)
  | 13 :: 10 :: rest => some ([], rest)
  | b :: rest => (splitLine rest).map fun (line, rest) => (b :: line, rest)
  | [] => none

def headLines : (limit : Nat) → List UInt8 → Option (List (List UInt8) × List UInt8)
  | 0, _ => none
  | limit + 1, bytes =>
      match splitLine bytes with
      | none => none
      | some ([], rest) => some ([], rest)
      | some (line, rest) => (headLines limit rest).map fun (lines, rest) => (line :: lines, rest)

def ascii (bytes : List UInt8) : List Char := bytes.map fun b => Char.ofNat b.toNat

def status? (line : List UInt8) : Option Nat :=
  match List.isPrefixOf? "HTTP/1.1 ".toList (ascii line) with
  | some (a :: b :: c :: rest) =>
      if rest.isEmpty || rest.head? == some ' ' then Text.Decimal.readDigits? [a, b, c] else none
  | _ => none

def header? (line : List UInt8) : Option (List Char × List UInt8) := do
  let (name, _) ← Text.splitOnce ':' (ascii line)
  let isBlank (b : UInt8) : Bool := b == 32 || b == 9
  let value := (line.drop (name.length + 1)).dropWhile isBlank
  some (name.map Char.toLower, (value.reverse.dropWhile isBlank).reverse)

def visible? (value : List UInt8) : Option String :=
  if value.all fun b => b == 9 || (32 ≤ b && b < 127) then some (String.ofList (ascii value))
  else none

def hexSize? (cs : List Char) : Option Nat :=
  let digit? (c : Char) : Option Nat :=
    if '0' ≤ c && c ≤ '9' then some (c.toNat - '0'.toNat)
    else if 'a' ≤ c.toLower && c.toLower ≤ 'f' then some (c.toLower.toNat - 'a'.toNat + 10)
    else none
  if cs.isEmpty then none
  else (cs.mapM digit?).map fun ds => ds.foldl (fun n d => 16 * n + d) 0

def chunksOf : (limit : Nat) → List UInt8 → List (List UInt8) × Bool
  | 0, _ => ([], false)
  | limit + 1, bytes =>
      match splitLine bytes with
      | none => ([], false)
      | some (line, rest) =>
          match hexSize? ((ascii line).takeWhile fun c => c != ';') with
          | none => ([], false)
          | some 0 => ([], true)
          | some size =>
              if rest.length < size + 2 then ([rest.take size], false)
              else
                let (chunks, whole) := chunksOf limit (rest.drop (size + 2))
                (rest.take size :: chunks, whole)

def read? (bytes : List UInt8) : Option Response := do
  let (lines, body) ← headLines (bytes.length + 1) bytes
  let statusLine ← lines.head?
  let status ← status? statusLine
  let headers ← (lines.drop 1).mapM header?
  let contentType := (headers.lookup "content-type".toList).bind visible?
  let chunked := (headers.lookup "transfer-encoding".toList).any fun v =>
    Text.equalIgnoringCase (ascii v) "chunked".toList
  if chunked then
    let (chunks, whole) := chunksOf (body.length + 1) body
    some ⟨status, contentType, none, chunks, whole⟩
  else
    match headers.lookup "content-length".toList with
    | none => some ⟨status, contentType, none, [body], true⟩
    | some value => do
        let length ← Text.Decimal.readDigits? (ascii value)
        some ⟨status, contentType, some length, [body.take length], length ≤ body.length⟩

end Response

end MailAudit.Http
