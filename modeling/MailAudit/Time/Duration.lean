import MailAudit.Text.Decimal

namespace MailAudit

structure Duration where
  nanoseconds : Nat
  deriving DecidableEq, Repr

namespace Duration

def ofMilliseconds (n : Nat) : Duration := ⟨n * 1000000⟩

def ofSeconds (n : Nat) : Duration := ⟨n * 1000000000⟩

def milliseconds (d : Duration) : Nat := d.nanoseconds / 1000000

def atLeast (least d : Duration) : Duration := ⟨max least.nanoseconds d.nanoseconds⟩

/-- A count of units with its fraction of `places` digits, without zeros at the end. -/
def inUnits (places n : Nat) : String :=
  let unit := Nat.pow 10 places
  let fraction := Text.dropEndWhile (· == '0') (Text.Decimal.padded places (n % unit))
  let whole := Text.Decimal.print (n / unit)
  if fraction.isEmpty then whole else whole ++ "." ++ String.ofList fraction

/-- Printed in the largest of the units s, ms, µs and ns of which it holds at least one. -/
def text (d : Duration) : String :=
  let n := d.nanoseconds
  if 1000000000 ≤ n then inUnits 9 n ++ "s"
  else if 1000000 ≤ n then inUnits 6 n ++ "ms"
  else if 1000 ≤ n then inUnits 3 n ++ "µs"
  else inUnits 0 n ++ "ns"

/-- Seconds with one decimal place, a half rounded up. -/
def inTenths (d : Duration) : String :=
  let tenths := (d.nanoseconds + 50000000) / 100000000
  Text.Decimal.print (tenths / 10) ++ "." ++ Text.Decimal.print (tenths % 10)

end Duration

end MailAudit
