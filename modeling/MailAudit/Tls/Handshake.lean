import MailAudit.Tls.Certificate

namespace MailAudit.Tls

inductive Version where
  | tls12
  | tls13
  deriving DecidableEq, Repr

def Version.name : Version → String
  | tls12 => "TLSv1_2"
  | tls13 => "TLSv1_3"

structure Session where
  version : Version
  chain : List Presented
  deriving DecidableEq, Repr

inductive Alert where
  | closeNotify
  | handshakeFailure
  | protocolVersion
  | other (code : Nat)
  deriving DecidableEq, Repr

namespace Alert

def ofCode (code : Nat) : Alert :=
  if code = 0 then closeNotify
  else if code = 40 then handshakeFailure
  else if code = 70 then protocolVersion
  else other code

end Alert

inductive ProtocolError where
  | versionsTooOld
  | versionDisabled
  | noCommonSuite
  | notOffered
  | alert (a : Alert)
  | notComplete
  | noCertificates
  | malformed
  deriving DecidableEq, Repr

inductive HandshakeError where
  | transport (reason : String)
  | protocol (e : ProtocolError)
  | wrapped (e : ProtocolError)
  deriving DecidableEq, Repr

namespace HandshakeError

/-- Only a failure that directly names an old version counts as one. -/
def isDeprecatedVersion : HandshakeError → Bool
  | protocol .versionsTooOld => true
  | protocol .versionDisabled => true
  | protocol (.alert .protocolVersion) => true
  | _ => false

def reason : HandshakeError → String
  | transport reason => reason
  | protocol _ => "protocol error"
  | wrapped _ => "protocol error below"

end HandshakeError

/-- What comes from the peer after the client's first message: bytes that complete no handshake and
then the end of the connection, a whole handshake or what is left of one that has begun before, or
one that fails in the midst of it. -/
inductive Answer where
  | bytes (bytes : List UInt8)
  | session (s : Session)
  | failed (e : HandshakeError)
  | closed
  | silent
  deriving Repr

namespace Answer

def record? : List UInt8 → Option (Nat × List UInt8 × List UInt8)
  | type :: 3 :: _ :: high :: low :: rest =>
      let length := 256 * high.toNat + low.toNat
      if length ≤ rest.length then some (type.toNat, rest.take length, rest.drop length) else none
  | _ => none

def helloVersion? : List UInt8 → Option Nat
  | 2 :: a :: b :: c :: rest =>
      let length := 65536 * a.toNat + 256 * b.toNat + c.toNat
      if 38 ≤ length && length ≤ rest.length then
        match rest with
        | high :: low :: _ => some (256 * high.toNat + low.toNat)
        | _ => none
      else none
  | _ => none

/-- What is wrong with the first bytes of a peer, if that is clear whatever follows them. So many
alerts of the warning level are passed over. -/
def fault? (warnings : Nat) (bytes : List UInt8) : Option HandshakeError :=
  match record? bytes with
  | none => none
  | some (0x15, [1, _], rest) =>
      match warnings with
      | 0 => some (.protocol .malformed)
      | warnings + 1 => fault? warnings rest
  | some (0x15, [_, code], _) => some (.protocol (.alert (.ofCode code.toNat)))
  | some (0x16, content, _) =>
      (helloVersion? content).map fun version =>
        .protocol (if version < 0x0303 then .versionsTooOld else .malformed)
  | some _ => some (.protocol .malformed)

def warningsBorne : Nat := 4

def endedEarly : HandshakeError := .transport "unexpected end of the connection"

/-- An answer that comes after other bytes. These end the handshake if they are at fault, and
otherwise leave it to what follows. -/
def after (earlier : List UInt8) : Answer → Answer
  | bytes received => .bytes (earlier ++ received)
  | answer =>
      match fault? warningsBorne earlier with
      | some e => .failed e
      | none => answer

def outcome : Answer → Option (Except HandshakeError Session)
  | bytes received => some (.error ((fault? warningsBorne received).getD endedEarly))
  | session s => some (.ok s)
  | failed e => some (.error e)
  | closed => some (.error endedEarly)
  | silent => none

end Answer

end MailAudit.Tls
