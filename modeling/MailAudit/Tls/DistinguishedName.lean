import MailAudit.Text.Utf16
import MailAudit.Text.Utf8
import MailAudit.Tls.Der.Element
import MailAudit.Tls.ObjectId

namespace MailAudit.Tls

structure Attribute where
  key : String
  value : Option String
  deriving DecidableEq, Repr

structure DistinguishedName where
  parts : List (List Attribute)
  deriving DecidableEq, Repr

namespace Attribute

def text? (a : Attribute) : Option String := a.value.map fun value => a.key ++ "=" ++ value

end Attribute

namespace DistinguishedName

def text? (n : DistinguishedName) : Option String :=
  let partText? (part : List Attribute) : Option String :=
    (part.mapM Attribute.text?).map (String.intercalate " + ")
  (n.parts.mapM partText?).map (String.intercalate ", ")

def unreadable : String := "<X509Error: Invalid X.509 name>"

def text (n : DistinguishedName) : String := n.text?.getD unreadable

def put (pairs : List (String × String)) (key value : String) : List (String × String) :=
  if pairs.any (·.1 == key) then
    pairs.map fun pair => if pair.1 == key then (key, value) else pair
  else pairs ++ [(key, value)]

/-- Each attribute is a part of its own, and no two have the same key. -/
def ofPairs (pairs : List (String × String)) : DistinguishedName :=
  let once := pairs.foldl (fun l (key, value) => put l key value) []
  ⟨once.map fun (key, value) => [⟨key, some value⟩]⟩

end DistinguishedName

namespace Der

open Number

def textNumbers : List Nat :=
  [objectDescriptor, utf8String, numericString, printableString, teletexString, videotexString,
    ia5String, graphicString, visibleString, generalString]

def capitalByte (b : UInt8) : List Char := (ObjectId.hexByte b).map Char.toUpper

def valueText? (e : Element) : Option String :=
  if textNumbers.contains e.tag.number then Text.Utf8.decode? e.content
  else if e.tag.number = bmpString then Text.Utf16.decode? e.content
  else some (String.ofList (e.content.flatMap capitalByte))

namespace Reader

def objectId : Reader ObjectId := do
  let e ← element
  guard !e.tag.constructed
  return ⟨e.content⟩

def nameAttribute : Reader Attribute :=
  inside sequence do
    let key ← objectId
    let value ← element
    return ⟨key.label, valueText? value⟩

def namePart : Reader (List Attribute) :=
  inside set do
    let found ← many nameAttribute
    guard !found.isEmpty
    return found

def distinguishedName : Reader DistinguishedName :=
  inside sequence do return ⟨← many namePart⟩

end Reader

end Der

end MailAudit.Tls
