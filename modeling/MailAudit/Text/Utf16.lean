
namespace MailAudit.Text.Utf16

/-- A character that stands for itself, or a code unit given by its number. -/
inductive Unit where
  | char (c : Char)
  | code (n : Nat)
  deriving DecidableEq, Repr

def isHighSurrogate (n : Nat) : Bool := 0xD800 ≤ n && n ≤ 0xDBFF

def isLowSurrogate (n : Nat) : Bool := 0xDC00 ≤ n && n ≤ 0xDFFF

def pairedCodePoint (high low : Nat) : Nat :=
  0x10000 + (high - 0xD800) * 0x400 + (low - 0xDC00)

/-- Joins surrogate pairs; `none` if one of their halves stands alone. -/
def join? : List Unit → Option (List Char)
  | [] => some []
  | .char c :: rest => (join? rest).map (c :: ·)
  | .code n :: rest =>
      if isHighSurrogate n then
        match rest with
        | .code low :: rest =>
            if isLowSurrogate low then
              (join? rest).map (Char.ofNat (pairedCodePoint n low) :: ·)
            else none
        | _ => none
      else if isLowSurrogate n then none
      else (join? rest).map (Char.ofNat n :: ·)

/-- Code units with the higher byte first; a last byte without a partner is a unit of its own. -/
def units : List UInt8 → List Unit
  | high :: low :: rest => .code (256 * high.toNat + low.toNat) :: units rest
  | [last] => [.code last.toNat]
  | [] => []

def decode? (bytes : List UInt8) : Option String := (join? (units bytes)).map String.ofList

end MailAudit.Text.Utf16
