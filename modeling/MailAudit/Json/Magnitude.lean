import MailAudit.Json.Value

namespace MailAudit.Numeral

/-- The nearest number of at most 53 significant bits, the even one of two. -/
def roundTo53 (n : Nat) : Nat :=
  let excess := n.log2 + 1 - 53
  let unit := Nat.pow 2 excess
  let low := n / unit
  let rest := n % unit
  let up := unit < 2 * rest || (unit == 2 * rest && low % 2 == 1)
  (if up && excess != 0 then low + 1 else low) * unit

/-- From here on numbers round to infinity. -/
def infinityBound : Nat := Nat.pow 2 1024 - Nat.pow 2 970

/-- The leading digits as long as their number stays within 64 bits, and how many digits follow. -/
def leading (limit : Nat) : Nat → List Char → Nat × Nat
  | n, [] => (n, 0)
  | n, c :: cs =>
      let more := 10 * n + Text.Decimal.digitValue c
      if limit < more then (n, cs.length + 1) else leading limit more cs

/-- The digits that count and the power of ten they are multiplied with. Digits of the fraction
beyond 64 bits are dropped. -/
def scaled (n : Numeral) : Nat × Int :=
  let (whole, dropped) := leading Text.Decimal.maxWord 0 n.whole
  let exponent : Int := n.exponent.getD 0
  if dropped = 0 then
    let (all, unused) := leading Text.Decimal.maxWord whole n.fraction
    (all, exponent - ((n.fraction.length - unused : Nat) : Int))
  else
    let (all, unused) := leading Text.Decimal.maxWord whole n.fraction
    (all, exponent + (dropped : Int) - ((n.fraction.length - unused : Nat) : Int))

/-- A number that is no natural number of 64 bits is finite unless its product reaches the bound. -/
def isFinite (n : Numeral) : Bool :=
  let (significand, exponent) := scaled n
  if significand = 0 || exponent ≤ 0 then true
  else if 308 < exponent then false
  else roundTo53 significand * roundTo53 (Nat.pow 10 exponent.toNat) < infinityBound

end MailAudit.Numeral
