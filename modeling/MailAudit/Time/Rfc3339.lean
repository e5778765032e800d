import MailAudit.Text.Decimal
import MailAudit.Time.Instant

namespace MailAudit.Rfc3339

open MailAudit.Text

def signed (positive : Bool) (width n : Nat) : List Char :=
  (if positive then '+' else '-') :: Decimal.padded width n

/-- Four digits for the years 0 to 9999; other years have a sign. -/
def yearText (year : Int) : List Char :=
  if 0 ≤ year ∧ year ≤ 9999 then Decimal.padded 4 year.toNat
  else signed (0 ≤ year) 4 year.natAbs

def dateText (d : Date) : List Char :=
  yearText d.year ++ '-' :: Decimal.padded 2 d.month ++ '-' :: Decimal.padded 2 d.day

/-- Hours, minutes and seconds of the day; the second of a leap second is the sixtieth. -/
def clockText (t : Instant) : List Char :=
  let second := t.secondOfDay.toNat
  let leap := if 1000000000 ≤ t.nanos then 1 else 0
  Decimal.padded 2 (second / 3600) ++ ':' :: Decimal.padded 2 (second / 60 % 60) ++
    ':' :: Decimal.padded 2 (second % 60 + leap)

/-- The nanoseconds in `places` digits after a point. -/
def fractionText (places nanos : Nat) : List Char :=
  if places = 0 then []
  else '.' :: Decimal.padded places (nanos / Nat.pow 10 (9 - places))

/-- The fewest of 0, 3, 6 and 9 places that lose nothing. -/
def placesFor (nanos : Nat) : Nat :=
  if nanos % 1000000000 = 0 then 0
  else if nanos % 1000000 = 0 then 3
  else if nanos % 1000 = 0 then 6
  else 9

def withPlaces (places : Nat) (t : Instant) : String :=
  String.ofList (dateText (Date.ofDay (t.seconds / 86400)) ++ 'T' :: clockText t ++
    fractionText places (t.nanos % 1000000000) ++ ['Z'])

def print (t : Instant) : String :=
  withPlaces (placesFor t.nanos) t

def number? (most : Nat) (cs : List Char) : Option (Nat × List Char) :=
  let digits := (cs.takeWhile Decimal.isDigit).take most
  if digits.isEmpty then none else some (Decimal.value digits, cs.drop digits.length)

def field? (cs : List Char) : Option (Nat × List Char) :=
  number? 2 (trimStart cs)

/-- Any number of digits after a sign, and at most four without one. -/
def year? (cs : List Char) : Option (Int × List Char) :=
  match trimStart cs with
  | '-' :: rest => (number? rest.length rest).map fun (n, rest) => (-Int.ofNat n, rest)
  | '+' :: rest => (number? rest.length rest).map fun (n, rest) => (Int.ofNat n, rest)
  | rest => (number? 4 rest).map fun (n, rest) => (Int.ofNat n, rest)

def mark? (c : Char) (cs : List Char) : Option (List Char) :=
  match trimStart cs with
  | d :: rest => if d = c then some rest else none
  | [] => none

def date? (cs : List Char) : Option (Date × List Char) := do
  let (year, cs) ← year? cs
  let (month, cs) ← field? (← mark? '-' cs)
  let (day, cs) ← field? (← mark? '-' cs)
  some (⟨year, month, day⟩, cs)

def separator? : List Char → Option (List Char)
  | c :: cs => if c = 'T' || c = 't' || c = ' ' then some cs else none
  | [] => none

/-- Nanoseconds after a point: nine digits count, further ones are passed over. -/
def fraction? (cs : List Char) : Option (Nat × List Char) :=
  match cs with
  | '.' :: rest =>
      let digits := rest.takeWhile Decimal.isDigit
      if digits.isEmpty then none
      else
        let used := digits.take 9
        some (Decimal.value used * Nat.pow 10 (9 - used.length), rest.dropWhile Decimal.isDigit)
  | _ => some (0, cs)

def clock? (cs : List Char) : Option (Nat × Nat × List Char) := do
  let (hour, cs) ← field? cs
  let (minute, cs) ← field? (← mark? ':' cs)
  let (second, cs) ← field? (← mark? ':' cs)
  let (nanos, cs) ← fraction? cs
  guard (hour < 24 ∧ minute < 60 ∧ second ≤ 60)
  if second = 60 then some (hour * 3600 + minute * 60 + 59, nanos + 1000000000, cs)
  else some (hour * 3600 + minute * 60 + second, nanos, cs)

def twoDigits? : List Char → Option (Nat × List Char)
  | a :: b :: rest =>
      if Decimal.isDigit a && Decimal.isDigit b then some (Decimal.value [a, b], rest) else none
  | _ => none

/-- Seconds east of UTC: `UTC`, `Z`, or hours and minutes after a sign. Colons and blanks may stand
between the hours and the minutes. -/
def offset? (cs : List Char) : Option (Int × List Char) :=
  if equalIgnoringCase (cs.take 3) "UTC".toList then some (0, cs.drop 3)
  else
    match cs with
    | [] => none
    | c :: rest =>
        if c = 'Z' || c = 'z' then some (0, rest)
        else do
          let negative := c != '+'
          guard (c = '+' || c = '-' || c = '\u2212')
          let (hours, rest) ← twoDigits? rest
          let (minutes, rest) ← twoDigits? (rest.dropWhile fun c => c = ':' || isBlank c)
          guard (minutes < 60 ∧ hours < 24)
          let seconds : Int := (hours * 3600 + minutes * 60 : Nat)
          some (if negative then -seconds else seconds, rest)

def read? (s : String) : Option Instant := do
  let (date, cs) ← date? s.toList
  let (second, nanos, cs) ← clock? (← separator? cs)
  let (offset, cs) ← offset? (trimStart cs)
  guard (trimStart cs).isEmpty
  guard (date.isValid ∧ Instant.firstYear ≤ date.year ∧ date.year ≤ Instant.lastYear)
  Instant.of? (date.toDay * 86400 + second - offset) nanos

end MailAudit.Rfc3339
