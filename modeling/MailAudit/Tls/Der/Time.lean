import MailAudit.Text.Decimal
import MailAudit.Time.Calendar
import MailAudit.Tls.Der.Element

namespace MailAudit.Tls.Der

open Reader

structure Moment where
  year : Nat
  month : Nat
  day : Nat
  hour : Nat
  minute : Nat
  second : Nat
  zone : Int := 0
  deriving DecidableEq, Repr

namespace Moment

def date (m : Moment) : Date := ⟨m.year, m.month, m.day⟩

def isValid (m : Moment) : Bool :=
  m.date.isValid && m.hour < 24 && m.minute < 60 && m.second < 60

def seconds? (m : Moment) : Option Int :=
  if m.isValid then
    some (m.date.toDay * 86400 + (m.hour * 3600 + m.minute * 60 + m.second : Nat) - m.zone)
  else none

end Moment

/-- A year of two digits lies between 1950 and 2049. -/
def fullYear (year : Nat) : Nat := if year < 50 then 2000 + year else 1900 + year

def digits? (bytes : List UInt8) : Option Nat :=
  Text.Decimal.readDigits? (bytes.map fun b => Char.ofNat b.toNat)

namespace Reader

def digits (width : Nat) : Reader Nat := do
  let bytes ← take width
  digits? bytes

/-- Two digits, or zero where no two bytes are left. -/
def optionalPair : Reader Nat := fun bytes =>
  if bytes.length < 2 then some (0, bytes) else digits 2 bytes

def byte (b : UInt8) : Reader Unit := do
  let found ← take 1
  guard (found = [b])

/-- The letter `Z`, or hours and minutes from Greenwich; less than an hour counts as east of it. -/
def zone : Reader Int := do
  let found ← take 1
  if found = [0x5A] then return 0
  else
    let hours ← digits 2
    let minutes ← digits 2
    guard (hours ≤ 25 && minutes ≤ 59)
    let size : Int := (hours * 3600 + minutes * 60 : Nat)
    if found = [0x2B] then return size
    else
      guard (found = [0x2D])
      return if hours = 0 then size else -size

/-- A point with at most three digits. -/
def fraction : Reader Unit := fun bytes =>
  match bytes with
  | 0x2E :: rest =>
      let digits := rest.takeWhile fun b => 0x30 ≤ b && b ≤ 0x39
      if digits.length ≤ 3 then some ((), rest.drop digits.length) else none
  | _ => some ((), bytes)

/-- A moment with a year of two digits; its seconds may be left out. -/
def shortMoment : Reader Moment := do
  let year ← digits 2
  let month ← digits 2
  let day ← digits 2
  let hour ← digits 2
  let minute ← digits 2
  let second ← optionalPair
  return ⟨fullYear year, month, day, hour, minute, second, ← zone⟩

/-- A moment with a year of four digits; its minutes and seconds may be left out, and its zone is
`Z`. -/
def longMoment : Reader Moment := do
  let year ← digits 4
  let month ← digits 2
  let day ← digits 2
  let hour ← digits 2
  let minute ← optionalPair
  let second ← optionalPair
  fraction
  byte 0x5A
  return ⟨year, month, day, hour, minute, second, 0⟩

def time : Reader Int := do
  let e ← element
  let moment ←
    if e.tag.number = Number.utcTime then shortMoment.whole? e.content
    else if e.tag.number = Number.generalizedTime then longMoment.whole? e.content
    else none
  moment.seconds?

end Reader

end MailAudit.Tls.Der
