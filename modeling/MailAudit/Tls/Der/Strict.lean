import MailAudit.Tls.Der.Time

/-! DER in its one permitted form, as data that is signed has to be: tags of one byte, lengths in as
few bytes as possible, and contents below 65535 bytes that are used up. -/

namespace MailAudit.Tls.Der.Strict

open Reader

def length : Reader Nat := do
  let first ← take 1
  let n := big first
  if n < 128 then return n
  else
    guard (129 ≤ n && n ≤ 132)
    let bytes ← take (n - 128)
    guard (bytes.head? != some 0 && 128 ≤ big bytes)
    return big bytes

def contentLimit : Nat := 65535

def element : Reader (UInt8 × List UInt8) := do
  let tag ← take 1
  guard (big tag % 32 != 31)
  let n ← length
  guard (n < contentLimit)
  return ((big tag).toUInt8, ← take n)

def content (tag : UInt8) : Reader (List UInt8) := do
  let (found, content) ← element
  guard (found = tag)
  return content

variable {α : Type}

def inside (tag : UInt8) (read : Reader α) : Reader α := do
  let bytes ← content tag
  read.whole? bytes

def boolean : UInt8 := 0x01

def integer : UInt8 := 0x02

def bitString : UInt8 := 0x03

def octetString : UInt8 := 0x04

def objectIdTag : UInt8 := 0x06

def utcTime : UInt8 := 0x17

def generalizedTime : UInt8 := 0x18

def sequence : UInt8 := 0x30

def member (number : UInt8) : UInt8 := 0xA0 + number

def isNext (tag : UInt8) : Reader Bool := fun bytes => some (bytes.head? == some tag, bytes)

def flag : Reader Bool := do
  if ← isNext boolean then
    let value ← content boolean
    guard (value = [0xFF] || value = [0])
    return value = [0xFF]
  else return false

/-- A number below 256, with a zero in front if it is 128 or more. -/
def byteNumber : Reader Nat := do
  match ← content integer with
  | [b] => guard (b < 128); return b.toNat
  | [0, b] => guard (128 ≤ b); return b.toNat
  | _ => failure

def wholeBits : Reader Unit := do
  let value ← content bitString
  guard (value.head? = some 0)

def time : Reader Int := do
  let short ← isNext utcTime
  let moment ← inside (if short then utcTime else generalizedTime) do
    let year ← digits (if short then 2 else 4)
    let month ← digits 2
    let day ← digits 2
    let hour ← digits 2
    let minute ← digits 2
    let second ← digits 2
    byte 0x5A
    let moment : Moment :=
      { year := if short then fullYear year else year, month, day, hour, minute, second }
    return moment
  guard (1970 ≤ moment.year)
  moment.seconds?

end MailAudit.Tls.Der.Strict
