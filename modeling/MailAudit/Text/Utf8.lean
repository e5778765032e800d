import MailAudit.Sum

namespace MailAudit.Text.Utf8

/-- What a lead byte promises: how many bytes follow, the bounds of the first of them, and the bits
that the lead contributes. -/
structure Lead where
  following : Nat
  low : UInt8
  high : UInt8
  bits : Nat
  deriving DecidableEq, Repr

def Lead.ofByte? (b : UInt8) : Option Lead :=
  let n := b.toNat
  if 0xC2 ≤ n && n ≤ 0xDF then some ⟨1, 0x80, 0xBF, n - 0xC0⟩
  else if n == 0xE0 then some ⟨2, 0xA0, 0xBF, 0⟩
  else if n == 0xED then some ⟨2, 0x80, 0x9F, n - 0xE0⟩
  else if 0xE1 ≤ n && n ≤ 0xEF then some ⟨2, 0x80, 0xBF, n - 0xE0⟩
  else if n == 0xF0 then some ⟨3, 0x90, 0xBF, 0⟩
  else if 0xF1 ≤ n && n ≤ 0xF3 then some ⟨3, 0x80, 0xBF, n - 0xF0⟩
  else if n == 0xF4 then some ⟨3, 0x80, 0x8F, n - 0xF0⟩
  else none

def Lead.admits (lead : Lead) (b : UInt8) : Bool :=
  lead.low ≤ b && b ≤ lead.high

def isContinuation (b : UInt8) : Bool :=
  0x80 ≤ b && b ≤ 0xBF

def append (bits : Nat) (b : UInt8) : Nat :=
  bits * 64 + (b.toNat - 0x80)

inductive Piece where
  | char (c : Char) (width : Nat)
  | broken (width : Nat)
  deriving DecidableEq, Repr

/-- Cuts bytes into characters and ill-formed stretches. A stretch is a single byte that starts no
character, or the longest beginning of a character that the next byte, or the end, cuts off. -/
def pieces : List UInt8 → List Piece
  | [] => []
  | b0 :: t0 =>
      if b0 < 0x80 then .char (Char.ofNat b0.toNat) 1 :: pieces t0
      else
        match Lead.ofByte? b0 with
        | none => .broken 1 :: pieces t0
        | some lead =>
            match t0 with
            | [] => [.broken 1]
            | b1 :: t1 =>
                if !lead.admits b1 then .broken 1 :: pieces (b1 :: t1)
                else if lead.following == 1 then
                  .char (Char.ofNat (append lead.bits b1)) 2 :: pieces t1
                else
                  match t1 with
                  | [] => [.broken 2]
                  | b2 :: t2 =>
                      if !isContinuation b2 then .broken 2 :: pieces (b2 :: t2)
                      else if lead.following == 2 then
                        .char (Char.ofNat (append (append lead.bits b1) b2)) 3 :: pieces t2
                      else
                        match t2 with
                        | [] => [.broken 3]
                        | b3 :: t3 =>
                            if !isContinuation b3 then .broken 3 :: pieces (b3 :: t3)
                            else
                              .char (Char.ofNat (append (append (append lead.bits b1) b2) b3)) 4
                                :: pieces t3

def Piece.char? : Piece → Option Char
  | .char c _ => some c
  | .broken _ => none

def Piece.width : Piece → Nat
  | .char _ width => width
  | .broken width => width

def Piece.shown (piece : Piece) : Char :=
  piece.char?.getD '\uFFFD'

def decode? (bytes : List UInt8) : Option String :=
  ((pieces bytes).mapM Piece.char?).map String.ofList

def decodeLossy (bytes : List UInt8) : String :=
  String.ofList ((pieces bytes).map Piece.shown)

def validLength (bytes : List UInt8) : Nat :=
  sumOf (((pieces bytes).takeWhile fun piece => piece.char?.isSome).map Piece.width)

def encode (s : String) : List UInt8 :=
  s.toList.flatMap String.utf8EncodeChar

end MailAudit.Text.Utf8
