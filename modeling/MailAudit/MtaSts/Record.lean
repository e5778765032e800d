import MailAudit.Text.Decimal
import MailAudit.Text.Quoted

namespace MailAudit.MtaSts

inductive RecordError where
  | notFound
  | malformed (record : String)
  | several (count : Nat)
  deriving DecidableEq, Repr

namespace RecordError

def message : RecordError → String
  | notFound => "No MTA-STS TXT record found"
  | malformed record => s!"Malformed MTA-STS TXT record {Text.quoted record}"
  | several count => s!"Found {count} MTA-STS TXT records; exactly one is allowed"

end RecordError

namespace Record

def isIdChar (c : Char) : Bool :=
  Text.Decimal.isDigit c || ('a' ≤ c && c ≤ 'z') || ('A' ≤ c && c ≤ 'Z')

def isEnding : List Char → Bool
  | [] => true
  | c :: cs => c = ';' && !cs.contains '\n'

def id? (record : List Char) : Option (List Char) := do
  let rest ← List.isPrefixOf? "v=STSv1;".toList record
  let rest ← List.isPrefixOf? "id=".toList (Text.trimStart rest)
  let id := rest.takeWhile isIdChar
  let ending := Text.trimStart (rest.dropWhile isIdChar)
  if 1 ≤ id.length && id.length ≤ 32 && isEnding ending then some id else none

def candidates (records : List String) : List (List Char) :=
  (records.map fun r => Text.trimChars r.toList).filter fun r => "v=STSv1".toList.isPrefixOf r

def find (records : List String) : Except RecordError String :=
  match candidates records with
  | [] => .error .notFound
  | [record] =>
      match id? record with
      | some id => .ok (String.ofList id)
      | none => .error (.malformed (String.ofList record))
  | several => .error (.several several.length)

end Record

end MailAudit.MtaSts
