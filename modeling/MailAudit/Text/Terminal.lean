
namespace MailAudit.Text.Terminal

inductive Place where
  | text
  | escape
  | escapeEnd
  | control
  | title
  | string
  deriving DecidableEq, Repr

def escapeCode : Char := '\x1b'

def isCancel (c : Char) : Bool := c = '\x18' || c = '\x1a'

def isSpacing (c : Char) : Bool := c = '\t' || c = '\n' || c = '\x0c' || c = '\r'

def isBetween (first last : Nat) (c : Char) : Bool := first ≤ c.toNat && c.toNat ≤ last

def isControl (c : Char) : Bool := c.toNat < 32 || c.toNat = 127

namespace Place

def opened (c : Char) : Place :=
  if c = '[' then control
  else if c = ']' then title
  else if ['P', 'X', '^', '_'].contains c then string
  else if isBetween 0x20 0x2f c then escapeEnd
  else if isBetween 0x30 0x7e c then text
  else escape

def next (p : Place) (c : Char) : Place :=
  if c = escapeCode then escape
  else if isCancel c then text
  else
    match p with
    | text => text
    | escape => opened c
    | escapeEnd => if isBetween 0x30 0x7e c then text else escapeEnd
    | control => if isBetween 0x40 0x7e c then text else control
    | title => if c = '\x07' then text else title
    | string => string

/-- Whether a character is to be read. Space in a short sequence is, and ends the sequence. -/
def shows (p : Place) (c : Char) : Bool :=
  match p with
  | text => !isControl c || isSpacing c
  | title => false
  | string => false
  | _ => isSpacing c

end Place

def readable (p : Place) : List Char → List Char
  | [] => []
  | c :: cs => if p.shows c then c :: readable .text cs else readable (p.next c) cs

def withoutControls (s : String) : String := String.ofList (readable .text s.toList)

end MailAudit.Text.Terminal
