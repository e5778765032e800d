import MailAudit.Smtp.Reply
import Mathlib.Data.Seq.Defs
import Mathlib.Logic.Function.Iterate

namespace MailAudit.Smtp

/-- What a peer sends: pieces that need not come to an end, and what follows them if they do. -/
structure Peer where
  pieces : Stream'.Seq (List UInt8)
  ending : Ending
  ne_nil : ∀ {i piece}, pieces.get? i = some piece → piece ≠ []

namespace Peer

def ofStream (s : Stream) (h : ∀ piece ∈ s.arriving, piece ≠ []) : Peer where
  pieces := .ofList s.arriving
  ending := s.ending
  ne_nil hpiece := h _ (List.mem_of_getElem? hpiece)

end Peer

namespace Reply

structure Reading where
  code? : Option Nat
  texts : List String
  earlier : List UInt8
  line : List UInt8
  buffer : List UInt8
  pulled : Nat

namespace Reading

def start (buffer : List UInt8) : Reading := ⟨none, [], [], [], buffer, 0⟩

def consumed (r : Reading) : List UInt8 := r.earlier ++ r.line

def fill? (p : Peer) (r : Reading) : Option Reading :=
  if r.buffer = [] then
    (p.pieces.get? r.pulled).map fun piece => { r with buffer := piece, pulled := r.pulled + 1 }
  else some r

def hold (r : Reading) (line rest : List UInt8) : Reading := { r with line, buffer := rest }

def endLine (r : Reading) (code : Nat) (text : List Char) : Reading :=
  { r with code? := some code, texts := r.texts ++ [String.ofList text], earlier := r.earlier ++
    r.line, line := [] }

end Reading

inductive State
  | reads (r : Reading)
  | parses (r : Reading)
  | answers (answer : Except ReplyError Reply) (r : Reading)

namespace State

def reading : State → Reading
  | reads r | parses r | answers _ r => r

def next (r : Reading) : State :=
  if r.texts.length = maxLines then answers (.error .tooManyLines) r else reads r

def absorb (r : Reading) : State :=
  match complete r.line r.buffer with
  | .error e => answers (.error e) r
  | .ok none => reads (r.hold (r.line ++ r.buffer) [])
  | .ok (some (whole, rest)) => parses (r.hold whole rest)

def parse (r : Reading) : State :=
  match parseLine (lineText r.line) with
  | .error e => answers (.error e) r
  | .ok (code, last, text) =>
    match r.code?.filter (· != code) with
    | some first => answers (.error (.codeChanged first code)) r
    | none =>
      if last then answers (.ok ⟨code, r.texts ++ [String.ofList text]⟩) r
        else next (r.endLine code text)

def step (p : Peer) : State → State
  | reads r =>
    match r.fill? p with
    | none => answers (.error p.ending.replyError) r
    | some r => absorb r
  | parses r => parse r
  | answers answer r => answers answer r

def after (p : Peer) (buffer : List UInt8) (count : Nat) : State :=
  (step p)^[count] (next (.start buffer))

end State

end Reply

end MailAudit.Smtp
