
namespace MailAudit.Csv

/-- How many records, line feeds and bytes lie before a place; lines are numbered from 1. -/
structure Position where
  record : Nat := 0
  line : Nat := 1
  byte : Nat := 0
  deriving DecidableEq, Repr

structure RawRecord where
  start : Position
  fields : List (List UInt8)
  deriving DecidableEq, Repr

def comma : UInt8 := 44

def quote : UInt8 := 34

def lineFeed : UInt8 := 10

def carriageReturn : UInt8 := 13

namespace Position

def advance (p : Position) (b : UInt8) : Position :=
  { p with line := if b = lineFeed then p.line + 1 else p.line, byte := p.byte + 1 }

def next (p : Position) : Position := { p with record := p.record + 1 }

end Position

inductive Place where
  /-- Before a record; line ends here are skipped. -/
  | beforeRecord
  /-- Past a record that ended with a carriage return, to which a line feed may still belong. -/
  | afterReturn
  | beforeField
  | inField
  | inQuotes
  | afterQuote
  deriving DecidableEq, Repr

inductive Effect where
  | skipped
  | kept
  | endsField
  | endsRecord
  deriving DecidableEq, Repr

namespace Place

def unquoted (b : UInt8) : Effect × Place :=
  if b = comma then (.endsField, beforeField)
  else if b = carriageReturn then (.endsRecord, afterReturn)
  else if b = lineFeed then (.endsRecord, beforeRecord)
  else (.kept, inField)

def fieldStart (b : UInt8) : Effect × Place :=
  if b = quote then (.skipped, inQuotes) else unquoted b

def recordStart (b : UInt8) : Effect × Place :=
  if b = carriageReturn ∨ b = lineFeed then (.skipped, beforeRecord) else fieldStart b

def read (p : Place) (b : UInt8) : Effect × Place :=
  match p with
  | beforeRecord => recordStart b
  | afterReturn => if b = lineFeed then (.skipped, beforeRecord) else recordStart b
  | beforeField => fieldStart b
  | inField => unquoted b
  | inQuotes => if b = quote then (.skipped, afterQuote) else (.kept, inQuotes)
  | afterQuote => if b = quote then (.kept, inQuotes) else unquoted b

def isBetween (p : Place) : Bool := p = beforeRecord || p = afterReturn

end Place

/-- What has been read: the present record with its last field and its fields in reverse, and the
records before it in reverse. -/
structure Progress where
  place : Place := .beforeRecord
  position : Position := {}
  start : Position := {}
  field : List UInt8 := []
  fields : List (List UInt8) := []
  records : List RawRecord := []
  deriving Repr

namespace Progress

def endField (p : Progress) : Progress :=
  { p with field := [], fields := p.field.reverse :: p.fields }

def endRecord (p : Progress) : Progress :=
  let p := p.endField
  let position := p.position.next
  { p with
    position, start := position, fields := []
    records := ⟨p.start, p.fields.reverse⟩ :: p.records }

def read (p : Progress) (b : UInt8) : Progress :=
  let (effect, place) := p.place.read b
  let p := { p with place, position := p.position.advance b }
  match effect with
  | .skipped => p
  | .kept => { p with field := b :: p.field }
  | .endsField => p.endField
  | .endsRecord => p.endRecord

def finish (p : Progress) : Progress :=
  if p.place.isBetween then p else p.endRecord

end Progress

def byteOrderMark : List UInt8 := [0xEF, 0xBB, 0xBF]

def rawRecords (bytes : List UInt8) (ended : Bool) : List RawRecord :=
  let begun : Progress :=
    match byteOrderMark.isPrefixOf? bytes with
    | some rest =>
        rest.foldl Progress.read { position := { byte := byteOrderMark.length } }
    | none => bytes.foldl Progress.read {}
  (if ended then begun.finish else begun).records.reverse

end MailAudit.Csv
