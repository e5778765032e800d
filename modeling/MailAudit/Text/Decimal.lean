import MailAudit.Text.Blank

namespace MailAudit.Text.Decimal

def isDigit (c : Char) : Bool :=
  '0' ≤ c && c ≤ '9'

def digitValue (c : Char) : Nat :=
  c.toNat - '0'.toNat

def value (digits : List Char) : Nat :=
  digits.foldl (fun n c => 10 * n + digitValue c) 0

def readDigits? (cs : List Char) : Option Nat :=
  if cs.isEmpty || !cs.all isDigit then none else some (value cs)

/-- One or more ASCII digits after an optional `+`, denoting a number of at most `limit`. -/
def read? (limit : Nat) (cs : List Char) : Option Nat :=
  let digits := match cs with
    | '+' :: rest => rest
    | other => other
  (readDigits? digits).filter (· ≤ limit)

def digits (n : Nat) : List Char :=
  Nat.toDigits 10 n

def print (n : Nat) : String :=
  String.ofList (digits n)

def padded (width n : Nat) : List Char :=
  List.replicate (width - (digits n).length) '0' ++ digits n

def maxWord : Nat := Nat.pow 2 64 - 1

end MailAudit.Text.Decimal
