
namespace MailAudit.Text.Punycode

def base : Nat := 36

def firstBias : Nat := 72

def firstCode : Nat := 128

/-- Digits up to this value end a number at the position. -/
def threshold (bias position : Nat) : Nat := min 26 (max 1 (position - bias))

def settle : (limit delta position : Nat) → Nat
  | 0, delta, position => position + 36 * delta / (delta + 38)
  | limit + 1, delta, position =>
      if 455 < delta then settle limit (delta / 35) (position + base)
      else position + 36 * delta / (delta + 38)

def adapt (delta count : Nat) (isFirst : Bool) : Nat :=
  let delta := if isFirst then delta / 700 else delta / 2
  settle 64 (delta + delta / count) 0

def digitOf (n : Nat) : Char :=
  if n < 26 then Char.ofNat ('a'.toNat + n) else Char.ofNat ('0'.toNat + (n - 26))

def valueOf? (c : Char) : Option Nat :=
  if 'a' ≤ c && c ≤ 'z' then some (c.toNat - 'a'.toNat)
  else if 'A' ≤ c && c ≤ 'Z' then some (c.toNat - 'A'.toNat)
  else if '0' ≤ c && c ≤ '9' then some (c.toNat - '0'.toNat + 26)
  else none

def number (bias : Nat) : (limit position n : Nat) → List Char
  | 0, _, _ => []
  | limit + 1, position, n =>
      let t := threshold bias position
      if n < t then [digitOf n]
      else
        digitOf (t + (n - t) % (base - t)) ::
          number bias limit (position + base) ((n - t) / (base - t))

structure Writing where
  delta : Nat := 0
  bias : Nat := firstBias
  written : Nat
  output : List Char
  deriving Repr

def Writing.pass (w : Writing) (basic code : Nat) (cs : List Char) : Writing :=
  cs.foldl (fun w c =>
    if c.toNat < code then { w with delta := w.delta + 1 }
    else if c.toNat = code then
      { delta := 0
        bias := adapt w.delta (w.written + 1) (w.written = basic)
        written := w.written + 1
        output := w.output ++ number w.bias 64 base w.delta }
    else w) w

def encode (cs : List Char) : List Char :=
  let plain := cs.filter fun c => c.toNat < firstCode
  let codes := (((cs.map Char.toNat).filter (firstCode ≤ ·)).mergeSort (· ≤ ·)).eraseDups
  let start : Writing :=
    { written := plain.length, output := if plain.isEmpty then [] else plain ++ ['-'] }
  let (w, _) := codes.foldl (fun (w, next) code =>
    let w := { w with delta := w.delta + (code - next) * (w.written + 1) }
    let w := w.pass plain.length code cs
    ({ w with delta := w.delta + 1 }, code + 1)) (start, firstCode)
  w.output

/-- The characters so far, where the next one goes and what it is, and the weight and position of
the next digit. -/
structure Reading where
  text : List Char
  code : Nat := firstCode
  bias : Nat := firstBias
  place : Nat := 0
  begun : Nat := 0
  weight : Nat := 1
  position : Nat := base
  deriving Repr

namespace Reading

def digit? (r : Reading) (c : Char) : Option Reading := do
  let d ← valueOf? c
  let place := r.place + d * r.weight
  let t := threshold r.bias r.position
  if t ≤ d then
    some { r with place, weight := r.weight * (base - t), position := r.position + base }
  else
    let count := r.text.length + 1
    let code := r.code + place / count
    guard (code.isValidChar)
    let index := place % count
    let text := r.text.take index ++ Char.ofNat code :: r.text.drop index
    let bias := adapt (place - r.begun) count (r.begun = 0)
    some { text, code, bias, place := index + 1, begun := index + 1 }

end Reading

/-- The characters up to the last hyphen stand for themselves; there is no hyphen if there are
none. -/
def decode? (cs : List Char) : Option (List Char) := do
  let tail := (cs.reverse.takeWhile (· != '-')).reverse
  let plain := (cs.take (cs.length - tail.length)).dropLast
  guard (plain.all fun c => c.toNat < firstCode)
  guard (!plain.isEmpty || tail.length = cs.length)
  let r ← tail.foldlM Reading.digit? { text := plain }
  guard (r.weight = 1)
  some r.text

end MailAudit.Text.Punycode
