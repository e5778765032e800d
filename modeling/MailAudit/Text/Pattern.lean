import MailAudit.Text.CharClass

namespace MailAudit.Text

namespace Pattern

inductive Edge where
  | start
  | finish
  | lineStart
  | lineFinish
  | boundary
  | noBoundary
  | wordStart
  | wordFinish
  | halfStart
  | halfFinish
  deriving DecidableEq, Repr

end Pattern

inductive Pattern where
  | nothing
  | char (c : CharClass)
  | edge (e : Pattern.Edge)
  | sequence (a b : Pattern)
  | either (a b : Pattern)
  | repeated (p : Pattern) (least : Nat) (most : Option Nat)
  deriving DecidableEq, Repr

namespace Pattern

def Edge.holds (e : Edge) (before after : Option Char) : Bool :=
  let wordBefore := before.any CharClass.isWord
  let wordAfter := after.any CharClass.isWord
  match e with
  | start => before.isNone
  | finish => after.isNone
  | lineStart => before.all (· == '\n')
  | lineFinish => after.all (· == '\n')
  | boundary => wordBefore != wordAfter
  | noBoundary => wordBefore == wordAfter
  | wordStart => !wordBefore && wordAfter
  | wordFinish => wordBefore && !wordAfter
  | halfStart => !wordBefore
  | halfFinish => !wordAfter

def characterBefore (text : List Char) (i : Nat) : Option Char :=
  if i = 0 then none else text[i - 1]?

def iterate {α : Type} (step : α → α) : Nat → α → α
  | 0, x => x
  | n + 1, x => iterate step n (step x)

def ends (text : List Char) : Pattern → Nat → List Nat
  | nothing, i => [i]
  | char c, i => if (text[i]?).any c.admits then [i + 1] else []
  | edge e, i => if e.holds (characterBefore text i) text[i]? then [i] else []
  | sequence a b, i => ((ends text a i).flatMap (ends text b)).eraseDups
  | either a b, i => (ends text a i ++ ends text b i).eraseDups
  | repeated p least most, i =>
      let once (places : List Nat) : List Nat := (places.flatMap (ends text p)).eraseDups
      let further := match most with
        | some most => min (most - least) (text.length + 1)
        | none => text.length + 1
      let required := min least (text.length + 1)
      iterate (fun places => (places ++ once places).eraseDups) further (iterate once required [i])

def occursIn (p : Pattern) (text : String) : Bool :=
  let cs := text.toList
  (List.range (cs.length + 1)).any fun i => !(ends cs p i).isEmpty

end Pattern

end MailAudit.Text
