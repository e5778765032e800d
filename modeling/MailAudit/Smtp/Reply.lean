import MailAudit.Smtp.Stream
import MailAudit.Text.Decimal
import MailAudit.Text.Quoted
import MailAudit.Text.Utf8

/-! Replies of a mail server: up to 128 lines of at most 1000 bytes that carry the same code, the
last one marked as such. -/

namespace MailAudit.Smtp

structure Reply where
  code : Nat
  lines : List String
  deriving DecidableEq, Repr

inductive ReplyError where
  | closed
  | failed (reason : String)
  | silent
  | lineTooLong
  | tooManyLines
  | malformedLine (line : String)
  | codeChanged (first later : Nat)
  deriving DecidableEq, Repr

namespace Ending

def replyError : Ending → ReplyError
  | closed => .closed
  | failed reason => .failed reason
  | silent => .silent

end Ending

namespace Reply

def maxLineBytes : Nat := 1000

def maxLines : Nat := 128

def text (r : Reply) : String := String.intercalate " " r.lines

/-- Whether a line after the first starts with `keyword`, in any case of letters. -/
def hasExtension (r : Reply) (keyword : String) : Bool :=
  (r.lines.drop 1).any fun line =>
    (Text.words line.toList).head?.any fun word => Text.equalIgnoringCase word keyword.toList

def lineFeed : UInt8 := 10

def splitLine : List UInt8 → Option (List UInt8 × List UInt8)
  | [] => none
  | b :: bs =>
      if b = lineFeed then some ([b], bs)
      else (splitLine bs).map fun (line, rest) => (b :: line, rest)

/-- Completes `line`, the beginning of a line, from the buffer: the whole line and what is left, or
nothing if the line goes on. -/
def complete (line buffer : List UInt8) :
    Except ReplyError (Option (List UInt8 × List UInt8)) :=
  match splitLine buffer with
  | some (last, rest) =>
      if maxLineBytes < line.length + last.length then .error .lineTooLong
      else .ok (some (line ++ last, rest))
  | none =>
      if maxLineBytes < line.length + buffer.length then .error .lineTooLong
      else .ok none

def lineFrom (ending : Ending) (line buffer : List UInt8) :
    List (List UInt8) → Except ReplyError (List UInt8 × Stream)
  | [] =>
      match complete line buffer with
      | .error e => .error e
      | .ok (some (whole, rest)) => .ok (whole, ⟨rest, [], ending⟩)
      | .ok none => .error ending.replyError
  | piece :: arriving =>
      match complete line buffer with
      | .error e => .error e
      | .ok (some (whole, rest)) => .ok (whole, ⟨rest, piece :: arriving, ending⟩)
      | .ok none => lineFrom ending (line ++ buffer) piece arriving

def rawLine (s : Stream) : Except ReplyError (List UInt8 × Stream) :=
  lineFrom s.ending [] s.buffer s.arriving

def lineText (raw : List UInt8) : List Char :=
  Text.dropEndWhile (fun c => c = '\r' || c = '\n') (Text.Utf8.decodeLossy raw).toList

/-- The code of a line, whether it is the last one, and its text: three digits, then nothing, or a
space and text, or a hyphen and text. -/
def parseLine (line : List Char) : Except ReplyError (Nat × Bool × List Char) :=
  let malformed := Except.error (.malformedLine (String.ofList line))
  match line with
  | a :: b :: c :: rest =>
      if [a, b, c].all Text.Decimal.isDigit then
        let code := Text.Decimal.value [a, b, c]
        match rest with
        | [] => .ok (code, true, [])
        | ' ' :: text => .ok (code, true, text)
        | '-' :: text => .ok (code, false, text)
        | _ => malformed
      else malformed
  | _ => malformed

def linesFrom (code? : Option Nat) (read : List String) :
    (remaining : Nat) → Stream → Except ReplyError (Reply × Stream)
  | 0, _ => .error .tooManyLines
  | remaining + 1, s => do
      let (raw, s) ← rawLine s
      let (code, last, text) ← parseLine (lineText raw)
      match code?.filter (· != code) with
      | some first => .error (.codeChanged first code)
      | none =>
          let read := read ++ [String.ofList text]
          if last then .ok (⟨code, read⟩, s) else linesFrom (some code) read remaining s

def read (s : Stream) : Except ReplyError (Reply × Stream) :=
  linesFrom none [] maxLines s

end Reply

end MailAudit.Smtp
