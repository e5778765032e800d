import MailAudit.Text.Alphanumeric
import MailAudit.Text.Blank
import MailAudit.Text.Mark

namespace MailAudit.Text

inductive CharClass where
  | range (low high : Char)
  | decimal
  | number
  | letter
  | mark
  | blank
  | word
  | not (c : CharClass)
  | either (a b : CharClass)
  | anyCase (c : CharClass)
  deriving DecidableEq, Repr

namespace CharClass

def connectorRanges : List (Nat × Nat) :=
  [(0x200c, 0x200d), (0x203f, 0x2040), (0x2054, 0x2054), (0xfe33, 0xfe34), (0xfe4d, 0xfe4f),
    (0xff3f, 0xff3f)]

def isWord (c : Char) : Bool :=
  isAlphabetic c || isMark c || isDecimal c || c = '_' || inRanges connectorRanges c.toNat

def cases (c : Char) : List Char :=
  [c, c.toLower, c.toUpper] ++
    if c = 'k' || c = 'K' then ['\u212a']
    else if c = 's' || c = 'S' then ['\u017f']
    else if c = '\u212a' then ['k', 'K']
    else if c = '\u017f' then ['s', 'S']
    else []

def admits : CharClass → Char → Bool
  | range low high, c => low ≤ c && c ≤ high
  | decimal, c => isDecimal c
  | number, c => isNumeric c
  | letter, c => isAlphabetic c
  | mark, c => isMark c
  | blank, c => isBlank c
  | word, c => isWord c
  | not k, c => !k.admits c
  | either a b, c => a.admits c || b.admits c
  | anyCase k, c => (cases c).any k.admits

def one (c : Char) : CharClass := range c c

def all : CharClass := range (Char.ofNat 0) (Char.ofNat 0x10ffff)

def empty : CharClass := not all

def ascii : CharClass := range (Char.ofNat 0) (Char.ofNat 127)

def ofList : List CharClass → CharClass
  | [] => empty
  | [k] => k
  | k :: rest => either k (ofList rest)

def both (a b : CharClass) : CharClass := not (either (not a) (not b))

def without (a b : CharClass) : CharClass := both a (not b)

def difference (a b : CharClass) : CharClass := either (without a b) (without b a)

end CharClass

end MailAudit.Text
