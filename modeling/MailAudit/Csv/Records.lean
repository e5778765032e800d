import MailAudit.Csv.Raw
import MailAudit.Text.Blank
import MailAudit.Text.Utf8

namespace MailAudit.Csv

structure Format where
  hasHeaders : Bool := false
  flexible : Bool := true
  trimmed : Bool := false
  deriving DecidableEq, Repr

inductive Error where
  | input (reason : String)
  | notUtf8 (position : Position) (field index : Nat)
  | unequalLengths (position : Position) (found expected : Nat)
  deriving DecidableEq, Repr

namespace Error

def message : Error → String
  | input reason => reason
  | notUtf8 p field index =>
      s!"CSV parse error: record {p.record} (line {p.line}, field: {field}, byte: {p.byte}): " ++
        s!"invalid utf-8: invalid UTF-8 in field {field} near byte index {index}"
  | unequalLengths p found expected =>
      s!"CSV error: record {p.record} (line: {p.line}, byte: {p.byte}): " ++
      s!"found record with {found} fields" ++
        s!", but the previous record has {expected} fields"

end Error

def isAsciiBlank (b : UInt8) : Bool :=
  b == 9 || b == 10 || b == 12 || b == 13 || b == 32

def trimBytes (field : List UInt8) : List UInt8 :=
  ((field.dropWhile isAsciiBlank).reverse.dropWhile isAsciiBlank).reverse

def decodeFields (position : Position) (index : Nat) :
    List (List UInt8) → Except Error (List String)
  | [] => .ok []
  | field :: rest =>
      match Text.Utf8.decode? field with
      | none => .error (.notUtf8 position index (Text.Utf8.validLength field))
      | some text => (decodeFields position (index + 1) rest).map (text :: ·)

namespace Format

/-- Reads one record. A fault of its bytes is placed where reading began: at the record itself, or
at the start of the file if the header was read along with it. -/
def record (f : Format) (expected : Nat) (begun : Position) (r : RawRecord) :
    Except Error (List String) :=
  if !f.flexible && r.fields.length != expected then
    .error (.unequalLengths r.start r.fields.length expected)
  else
    let fields := if f.trimmed then r.fields.map trimBytes else r.fields
    (decodeFields begun 0 fields).map fun texts =>
      if f.trimmed then texts.map Text.trim else texts

def data (f : Format) : List RawRecord → List (Except Error (List String))
  | [] => []
  | first :: rest =>
      let read (begun : Position) (r : RawRecord) := f.record first.fields.length begun r
      if f.hasHeaders then
        match rest with
        | [] => []
        | second :: rest => read first.start second :: rest.map fun r => read r.start r
      else (first :: rest).map fun r => read r.start r

/-- The data of a file, and after them the fault of a device that fails before the end. -/
def records (f : Format) (bytes : List UInt8) (failure : Option String) :
    List (Except Error (List String)) :=
  f.data (rawRecords bytes failure.isNone) ++ failure.toList.map fun reason =>
    .error (.input reason)

end Format

end MailAudit.Csv
