import MailAudit.Text.Blank
import MailAudit.Text.Direction
import MailAudit.Text.Joining
import MailAudit.Text.Mark
import MailAudit.Text.PlainForm
import MailAudit.Text.Punycode
import MailAudit.Text.Unprintable

namespace MailAudit.Dns.International

open MailAudit.Text

def isJoiner (c : Char) : Bool := c = '\u200c' || c = '\u200d'

def isFullStop (c : Char) : Bool := c = '\u3002' || c = '\uff0e' || c = '\uff61'

def ignoredRanges : List (Nat × Nat) := [
    (0xad, 0xad), (0x34f, 0x34f), (0x180b, 0x180d), (0x180f, 0x180f), (0x200b, 0x200b),
    (0x2060, 0x2060), (0x2064, 0x2064), (0xfe00, 0xfe0f), (0xfeff, 0xfeff), (0x1bca0, 0x1bca3),
    (0xe0100, 0xe01ef)]

def refusedRanges : List (Nat × Nat) := [(0xfffc, 0xfffd)]

def form? (c : Char) : Option (List Char) :=
  if c.toNat < 128 then some [c.toLower]
  else if isJoiner c then some [c]
  else if isFullStop c then some ['.']
  else if inRanges ignoredRanges c.toNat then some []
  else if inRanges refusedRanges c.toNat || isUnprintable c || hasPlainSign c then none
  else some ((plainForm? c).getD [c])

def isPlain (c : Char) : Bool := c.toNat < 128

def isPlainLabelChar (c : Char) : Bool := c.isAlphanum || c == '-'

/-- A joiner stands behind a sign that takes a vowel away; the one that keeps letters apart may also
stand between letters that would join. -/
def joinersFit : (before : List Char) → List Char → Bool
  | _, [] => true
  | before, c :: after =>
      let fits :=
        if !isJoiner c then true
        else if before.head?.any isVirama then true
        else
          c = '\u200c' &&
            ((before.dropWhile extendsGrapheme).head?).any joinsNext &&
            ((after.dropWhile extendsGrapheme).head?).any joinsPrevious
      fits && joinersFit (c :: before) after

def keepsDirection (label : List Char) : Bool :=
  let directions := label.map Direction.of
  let last := ((directions.reverse.dropWhile (· == .mark)).head?).getD .left
  match directions.head? with
  | none => true
  | some first =>
      if first.isFromRight then
        directions.all (fun d => d.isFromRight || d == .arabicNumber || d.isAnywhere) &&
          (last.isFromRight || last == .europeanNumber || last == .arabicNumber) &&
          !(directions.contains .europeanNumber && directions.contains .arabicNumber)
      else
        first == .left && directions.all (fun d => d == .left || d.isAnywhere) &&
          (last == .left || last == .europeanNumber)

def isFromRight (label : List Char) : Bool :=
  label.any fun c => let d := Direction.of c; d.isFromRight || d == .arabicNumber

def codeMark : List Char := "xn--".toList

def plainText? (label : List Char) : Option (List Char) :=
  if codeMark.isPrefixOf label then do
    let text ← Punycode.decode? (label.drop codeMark.length)
    guard (!text.all isPlain && text.all fun c => form? c == some [c])
    some text
  else some label

def isValid (label : List Char) : Bool :=
  label.all (fun c => !isPlain c || isPlainLabelChar c) && !label.head?.any isMark &&
    joinersFit [] label

def encode (label : List Char) : List Char :=
  if label.all isPlain then label else codeMark ++ Punycode.encode label

def plain? (text : List Char) : Option (List Char) := do
  let formed ← text.mapM form?
  let labels ← (splitAll '.' formed.flatten).mapM plainText?
  guard (labels.all isValid)
  guard (!labels.any isFromRight || labels.all keepsDirection)
  some (List.intercalate ['.'] (labels.map encode))

end MailAudit.Dns.International
