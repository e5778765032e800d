import MailAudit.Tls.Certificate
import MailAudit.Tls.Der.Time
import MailAudit.Tls.DistinguishedName

namespace MailAudit.Tls

structure Inspection where
  subject : DistinguishedName
  notAfter : Int
  deriving DecidableEq, Repr

namespace Inspection

def daysLeft (i : Inspection) (now : Int) : Int := Certificate.daysBetween now i.notAfter

end Inspection

namespace Der

open Number

def isNegative (bytes : List UInt8) : Bool := bytes.head?.any (128 ≤ ·)

def isShortestInteger : List UInt8 → Bool
  | [] => false
  | [_] => true
  | a :: b :: _ => !(a = 0 && b < 128) && !(a = 255 && 128 ≤ b)

def zeroBits (b : UInt8) : Nat :=
  ((List.range 8).takeWhile fun i => b.toNat / Nat.pow 2 i % 2 = 0).length

/-- The first byte counts the bits at the end that do not belong to the string; they are zero. -/
def isBitString : List UInt8 → Bool
  | [] => false
  | unused :: rest =>
      match rest.getLast? with
      | none => unused = 0
      | some last => unused.toNat ≤ zeroBits last

namespace Reader

variable {α : Type}

def word : Reader Unit := do
  let e ← numbered integer
  guard (!e.tag.constructed && isShortestInteger e.content && !isNegative e.content &&
    big e.content < 4294967296)

def unlessAtEnd (read : Reader Unit) : Reader Unit := do
  if ← isAtEnd then return () else read

/-- The next element, if it has a tag of this kind and number among those that belong to the
context. -/
def contextual? (number : Nat) : Reader (Option Element) := fun bytes =>
  match bytes with
  | [] => some (none, [])
  | b :: _ => do
      let (e, rest) ← element bytes
      if b.toNat / 64 = 2 && e.tag.number = number then some (some e, rest) else some (none, bytes)

def version : Reader Unit := do
  match ← contextual? 0 with
  | none => return ()
  | some e => word.front? e.content

def algorithm : Reader Unit :=
  inside sequence do
    let _ ← objectId
    unlessAtEnd do let _ ← element

def bits : Reader Unit := do
  let e ← numbered bitString
  guard (!e.tag.constructed && isBitString e.content)

def publicKey : Reader Unit :=
  inside sequence do
    algorithm
    bits

def uniqueId (number : Nat) : Reader Unit := do
  match ← contextual? number with
  | none => return ()
  | some e => guard (!e.tag.constructed && isBitString e.content)

def validityEnd : Reader Int :=
  inside sequence do
    let _ ← time
    time

def criticality : Reader Unit := fun bytes => do
  let (e, rest) ← element bytes
  if e.tag.number = boolean then
    if !e.tag.constructed && e.content.length = 1 then some ((), rest) else none
  else some ((), bytes)

def extension : Reader Unit :=
  inside sequence do
    let _ ← objectId
    criticality
    let value ← numbered octetString
    guard !value.tag.constructed

/-- Extensions take up all that is left. The length in front of their list does not count. -/
def extensions : Reader Unit :=
  unlessAtEnd do
    let (tag, _) ← header
    guard (tag.number = 3)
    let list ← numbered sequence
    guard (← isAtEnd)
    let _ ← (many extension).whole? list.content

def body : Reader Inspection :=
  inside sequence do
    version
    let serial ← looseTag
    guard (serial.number = integer)
    algorithm
    let _issuer ← distinguishedName
    let notAfter ← validityEnd
    let subject ← distinguishedName
    publicKey
    uniqueId 1
    uniqueId 2
    extensions
    return ⟨subject, notAfter⟩

def certificate : Reader Inspection :=
  inside sequence do
    let inspection ← body
    algorithm
    bits
    return inspection

end Reader

end Der

namespace Inspection

def ofBytes? (bytes : List UInt8) : Option Inspection :=
  Der.Reader.certificate.front? bytes

end Inspection

end MailAudit.Tls
