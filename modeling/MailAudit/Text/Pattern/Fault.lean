
namespace MailAudit.Text.Pattern

structure Span where
  start : Nat
  stop : Nat
  deriving DecidableEq, Repr

inductive Fault where
  | openGroup
  | unopenedGroup
  | lookAround
  | flag
  | repeatedFlag
  | repeatedNegation
  | danglingNegation
  | flagEnd
  | groupName
  | emptyGroupName
  | openGroupName
  | repeatedGroupName
  | nothingToRepeat
  | count
  | largeCount
  | countOrder
  | openCount
  | escape
  | escapeEnd
  | backReference
  | hexDigit
  | noHexDigit
  | hexValue
  | property
  | unknownProperty
  | wordEdge
  | openWordEdge
  | wordEdgeEnd
  | openClass
  | classMember
  | classRange
  | classRangeEnd
  | noText
  deriving DecidableEq, Repr

def Fault.message : Fault → String
  | openGroup => "unclosed group"
  | unopenedGroup => "unopened group"
  | lookAround => "look-around, including look-ahead and look-behind, is not supported"
  | flag => "unrecognized flag"
  | repeatedFlag => "duplicate flag"
  | repeatedNegation => "flag negation operator repeated"
  | danglingNegation => "dangling flag negation operator"
  | flagEnd => "expected flag but got end of regex"
  | groupName => "invalid capture group character"
  | emptyGroupName => "empty capture group name"
  | openGroupName => "unclosed capture group name"
  | repeatedGroupName => "duplicate capture group name"
  | nothingToRepeat => "repetition operator missing expression"
  | count => "repetition quantifier expects a valid decimal"
  | largeCount => "decimal literal invalid"
  | countOrder => "invalid repetition count range, the start must be <= the end"
  | openCount => "unclosed counted repetition"
  | escape => "unrecognized escape sequence"
  | escapeEnd => "incomplete escape sequence, reached end of pattern prematurely"
  | backReference => "backreferences are not supported"
  | hexDigit => "invalid hexadecimal digit"
  | noHexDigit => "hexadecimal literal empty"
  | hexValue => "hexadecimal literal is not a Unicode scalar value"
  | property => "invalid Unicode character class"
  | unknownProperty => "Unicode property not found"
  | wordEdge =>
      "unrecognized special word boundary assertion, valid choices are: start, end, start-half " ++
        "or end-half"
  | openWordEdge =>
      "special word boundary assertion is either unclosed or contains an invalid character"
  | wordEdgeEnd =>
      "found either the beginning of a special word boundary or a bounded repetition on a \\b " ++
        "with an opening brace, but no closing brace"
  | openClass => "unclosed character class"
  | classMember => "invalid escape sequence found in character class"
  | classRange => "invalid character class range, the start must be <= the end"
  | classRangeEnd => "invalid range boundary, must be a literal"
  | noText => "pattern can match invalid UTF-8"

structure ReadError where
  fault : Fault
  spans : List Span
  deriving DecidableEq, Repr

namespace ReadError

def marks (done : Nat) : List Span → List Char
  | [] => []
  | span :: rest =>
      let blanks := span.start - done
      let width := max 1 (span.stop - span.start)
      List.replicate blanks ' ' ++ List.replicate width '^' ++ marks (done + blanks + width) rest

def text (e : ReadError) (pattern : String) : String :=
  let spans := e.spans.mergeSort fun a b => a.start ≤ b.start
  "regex parse error:\n    " ++ pattern ++ "\n    " ++ String.ofList (marks 0 spans) ++
    "\nerror: " ++ e.fault.message

end ReadError

end MailAudit.Text.Pattern
