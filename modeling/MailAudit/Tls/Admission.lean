import MailAudit.Tls.Certificate
import MailAudit.Tls.Der.Strict
import MailAudit.Tls.ObjectId

/-! Certificates as they are read before their chain is judged: in full, in the one permitted form,
and with no extension that has to be understood and is not. -/

namespace MailAudit.Tls

structure Extension where
  id : ObjectId
  critical : Bool
  value : List UInt8
  deriving DecidableEq, Repr

namespace Extension

def keyUsage : ObjectId := .certificateExtension 15

def basicConstraints : ObjectId := .certificateExtension 19

def extendedKeyUsage : ObjectId := .certificateExtension 37

def understood : List ObjectId :=
  keyUsage :: [17, 19, 30, 31, 37].map ObjectId.certificateExtension

def isUnderstood (e : Extension) : Bool := understood.contains e.id

def content? (e : Extension) : Option (List UInt8) :=
  (Der.Strict.content Der.Strict.sequence).whole? e.value

def isWellFormed (e : Extension) : Bool :=
  if !e.isUnderstood then !e.critical
  else e.id = keyUsage || e.content?.isSome

def areAdmissible (l : List Extension) : Bool :=
  let ids := (l.filter isUnderstood).map (·.id)
  l.all isWellFormed && ids.eraseDups.length = ids.length

def find? (l : List Extension) (id : ObjectId) : Option (List UInt8) :=
  (l.find? fun e => e.id = id).bind content?

end Extension

namespace Der.Strict

open Reader

def sequenceContent : Reader (List UInt8) := content sequence

def extension : Reader Extension :=
  inside sequence do
    let id ← content objectIdTag
    let critical ← flag
    return ⟨⟨id⟩, critical, ← content octetString⟩

def extensionList : Reader (List Extension) := do
  let l ← many extension
  guard (← isAtEnd)
  return l

def extensions : Reader (List Extension) := do
  if ← isAtEnd then return []
  else inside (member 3) (inside sequence extensionList)

def isAuthority : Reader Bool := do
  let authority ← flag
  if ← isAtEnd then return authority
  else
    let _ ← byteNumber
    return authority

def reachesServer : (limit : Nat) → Reader Bool
  | 0 => return false
  | limit + 1 => do
      let id ← content objectIdTag
      if ObjectId.mk id = .serverAuthentication then return true else reachesServer limit

def forServers (bytes : List UInt8) : Bool :=
  ((reachesServer bytes.length).front? bytes).getD false

def purpose (l : List Extension) : Purpose :=
  let authority := match Extension.find? l Extension.basicConstraints with
    | none => some false
    | some bytes => isAuthority.whole? bytes
  match authority, Extension.find? l Extension.extendedKeyUsage with
  | none, _ => .other
  | some true, _ => .authority
  | some false, none => .server
  | some false, some bytes => if forServers bytes then .server else .other

def body (algorithm : List UInt8) : Reader Certificate := do
  let version ← inside (member 0) byteNumber
  guard (version = 2)
  let _serial ← content integer
  let claimed ← sequenceContent
  guard (claimed = algorithm)
  let _issuer ← sequenceContent
  let validity ← sequenceContent
  let _subject ← sequenceContent
  let _key ← sequenceContent
  let extensions ← extensions
  guard (Extension.areAdmissible extensions)
  let ((notBefore, notAfter), rest) ← (do return (← time, ← time) : Reader (Int × Int)) validity
  let purpose := if rest.isEmpty then purpose extensions else .other
  return { names := [], notBefore, notAfter, signer := "", purpose }

def certificate : Reader Certificate :=
  inside sequence do
    let signed ← sequenceContent
    let algorithm ← sequenceContent
    wholeBits
    (body algorithm).whole? signed

end Der.Strict

def Presented.ofBytes (bytes : List UInt8) : Presented :=
  match Der.Strict.certificate.whole? bytes with
  | some c => .certificate c
  | none => .unreadable

end MailAudit.Tls
