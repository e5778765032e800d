
namespace MailAudit.Tls.Der

structure Tag where
  constructed : Bool
  number : Nat
  deriving DecidableEq, Repr

namespace Number

def boolean : Nat := 1

def integer : Nat := 2

def bitString : Nat := 3

def octetString : Nat := 4

def objectDescriptor : Nat := 7

def utf8String : Nat := 12

def sequence : Nat := 16

def set : Nat := 17

def numericString : Nat := 18

def printableString : Nat := 19

def teletexString : Nat := 20

def videotexString : Nat := 21

def ia5String : Nat := 22

def utcTime : Nat := 23

def generalizedTime : Nat := 24

def graphicString : Nat := 25

def visibleString : Nat := 26

def generalString : Nat := 27

def bmpString : Nat := 30

end Number

structure Element where
  tag : Tag
  content : List UInt8
  deriving DecidableEq, Repr

def big (bytes : List UInt8) : Nat :=
  bytes.foldl (fun n b => 256 * n + b.toNat) 0

/-- A tag number in further bytes, of which all but the last are at least 128; of its bits the
lowest 32 count. -/
def longNumber? : (limit number : Nat) → List UInt8 → Option (Nat × List UInt8)
  | limit + 1, number, b :: rest =>
      let number := (128 * number + b.toNat % 128) % 4294967296
      if b < 128 then some (number, rest) else longNumber? limit number rest
  | _, _, _ => none

def tag? : List UInt8 → Option (Tag × List UInt8)
  | [] => none
  | b :: rest => do
      let (number, rest) ← if b.toNat % 32 = 31 then longNumber? 5 0 rest
        else some (b.toNat % 32, rest)
      some (⟨b.toNat / 32 % 2 = 1, number⟩, rest)

/-- A length below 128 in one byte, or after a byte that counts the bytes of the length; a count of
zero leaves the length open. -/
def length? : List UInt8 → Option (Option Nat × List UInt8)
  | [] => none
  | b :: rest =>
      if b < 128 then some (some b.toNat, rest)
      else
        let count := b.toNat - 128
        if count = 0 then some (none, rest)
        else if count = 127 || rest.length < count then none
        else some (some (big (rest.take count)), rest.drop count)

def header? (bytes : List UInt8) : Option (Tag × Option Nat × List UInt8) := do
  let (tag, rest) ← tag? bytes
  let (length, rest) ← length? rest
  some (tag, length, rest)

abbrev Reader (α : Type) := StateT (List UInt8) Option α

namespace Reader

def take (n : Nat) : Reader (List UInt8) := fun bytes =>
  if bytes.length < n then none else some (bytes.take n, bytes.drop n)

def header : Reader (Tag × Nat) := fun bytes => do
  let (tag, length, rest) ← header? bytes
  some ((tag, ← length), rest)

def element : Reader Element := do
  let (tag, length) ← header
  return ⟨tag, ← take length⟩

def isAtEnd : Reader Bool := fun bytes => some (bytes.isEmpty, bytes)

variable {α : Type}

def whole? (read : Reader α) (bytes : List UInt8) : Option α :=
  match read bytes with
  | some (x, []) => some x
  | _ => none

def front? (read : Reader α) (bytes : List UInt8) : Option α := (read bytes).map (·.1)

def numbered (number : Nat) : Reader Element := do
  let e ← element
  guard (e.tag.number = number)
  return e

def inside (number : Nat) (read : Reader α) : Reader α := do
  let e ← numbered number
  read.front? e.content

def several (read : Reader α) : (limit : Nat) → Reader (List α)
  | 0 => pure []
  | limit + 1 => fun bytes =>
      match read bytes with
      | none => some ([], bytes)
      | some (x, rest) => (several read limit rest).map fun (xs, rest) => (x :: xs, rest)

def many (read : Reader α) : Reader (List α) := fun bytes => several read bytes.length bytes

end Reader

/-- The rest behind the mark that ends a content of open length: an element with number 0 and
nothing in it. Contents of open length may be nested `depth` times. -/
def skipOpen? : (limit depth : Nat) → List UInt8 → Option (List UInt8)
  | limit + 1, depth + 1, bytes => do
      let (tag, length, rest) ← header? bytes
      match length with
      | some n =>
          if tag.number = 0 && n = 0 then some rest
          else if rest.length < n then none
          else skipOpen? limit (depth + 1) (rest.drop n)
      | none =>
          if tag.constructed then (skipOpen? limit depth rest).bind (skipOpen? limit (depth + 1))
          else none
  | _, _, _ => none

def maxDepth : Nat := 49

def Reader.looseTag : Reader Tag := fun bytes => do
  let (tag, length, rest) ← header? bytes
  match length with
  | some n => if rest.length < n then none else some (tag, rest.drop n)
  | none =>
      if tag.constructed then (skipOpen? bytes.length maxDepth rest).map fun rest => (tag, rest)
      else none

end MailAudit.Tls.Der
