
namespace MailAudit.Text

/-- The Unicode property White_Space. -/
def isBlank (c : Char) : Bool :=
  let n := c.toNat
  (0x9 ≤ n && n ≤ 0xD) || n == 0x20 || n == 0x85 || n == 0xA0 || n == 0x1680 ||
    (0x2000 ≤ n && n ≤ 0x200A) || n == 0x2028 || n == 0x2029 || n == 0x202F || n == 0x205F ||
    n == 0x3000

def trimStart (cs : List Char) : List Char :=
  cs.dropWhile isBlank

def dropEndWhile (p : Char → Bool) (cs : List Char) : List Char :=
  (cs.reverse.dropWhile p).reverse

def trimEnd (cs : List Char) : List Char :=
  dropEndWhile isBlank cs

def trimChars (cs : List Char) : List Char :=
  trimEnd (trimStart cs)

def trim (s : String) : String :=
  String.ofList (trimChars s.toList)

def splitOnce (sep : Char) : List Char → Option (List Char × List Char)
  | [] => none
  | c :: cs =>
      if c = sep then some ([], cs)
      else (splitOnce sep cs).map fun (before, after) => (c :: before, after)

def splitAll (sep : Char) : List Char → List (List Char)
  | [] => [[]]
  | c :: cs =>
      if c = sep then [] :: splitAll sep cs
      else
        match splitAll sep cs with
        | [] => [[c]]
        | part :: parts => (c :: part) :: parts

def wordsFrom (current : List Char) : List Char → List (List Char)
  | [] => if current.isEmpty then [] else [current.reverse]
  | c :: cs =>
      if isBlank c then
        if current.isEmpty then wordsFrom [] cs else current.reverse :: wordsFrom [] cs
      else wordsFrom (c :: current) cs

def words (cs : List Char) : List (List Char) :=
  wordsFrom [] cs

def dropReturn (cs : List Char) : List Char :=
  if cs.getLast? = some '\r' then cs.dropLast else cs

/-- The lines of a text. A line ends at a line feed, of which one carriage return before it is part;
a last line without a line feed keeps a carriage return. -/
def lines (cs : List Char) : List (List Char) :=
  let parts := splitAll '\n' cs
  parts.dropLast.map dropReturn ++ (parts.getLast?.toList.filter fun part => !part.isEmpty)

/-- What `replaceAll` does after the first `skip` characters, which belong to an occurrence already
replaced. -/
def replaceFrom (needle replacement : List Char) : (skip : Nat) → List Char → List Char
  | _, [] => []
  | skip + 1, _ :: cs => replaceFrom needle replacement skip cs
  | 0, c :: cs =>
      if needle.isPrefixOf (c :: cs) then
        replacement ++ replaceFrom needle replacement (needle.length - 1) cs
      else c :: replaceFrom needle replacement 0 cs

/-- Puts `replacement` in the place of every occurrence of `needle`, from the left and without
overlaps. An empty `needle` occurs nowhere. -/
def replaceAll (needle replacement cs : List Char) : List Char :=
  if needle.isEmpty then cs else replaceFrom needle replacement 0 cs

def contains (needle : List Char) : List Char → Bool
  | [] => needle.isEmpty
  | c :: cs => needle.isPrefixOf (c :: cs) || contains needle cs

def lowerAscii (s : String) : String :=
  String.ofList (s.toList.map Char.toLower)

def equalIgnoringCase (a b : List Char) : Bool :=
  a.map Char.toLower == b.map Char.toLower

end MailAudit.Text
