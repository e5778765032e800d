
namespace MailAudit.Tls

/-- The bytes of a path. The first byte holds the first two numbers, and each of the others is
written in groups of seven bits, of which the last is below 128. -/
structure ObjectId where
  bytes : List UInt8
  deriving DecidableEq, Repr

namespace ObjectId

/-- Whether a number is written in more than 64 bits, where `open` bits are already read. -/
def isLong : (pending : Nat) → List UInt8 → Bool
  | _, [] => false
  | pending, b :: rest =>
      if b < 128 then 64 < pending + 7 || isLong 0 rest else isLong (pending + 7) rest

/-- The numbers in groups of seven bits; `begun` is the number read so far, if it has begun. -/
def numbers : (begun : Option Nat) → List UInt8 → List Nat
  | begun, [] => begun.toList
  | begun, b :: rest =>
      let number := (128 * begun.getD 0 + b.toNat % 128) % 18446744073709551616
      if b < 128 then number :: numbers none rest else numbers (some number) rest

def path : ObjectId → List Nat
  | ⟨[]⟩ => []
  | ⟨[0]⟩ => [0]
  | ⟨first :: rest⟩ => first.toNat / 40 :: first.toNat % 40 :: numbers none rest

def hexByte (b : UInt8) : List Char :=
  [Nat.digitChar (b.toNat / 16), Nat.digitChar (b.toNat % 16)]

def text (o : ObjectId) : String :=
  if isLong 0 o.bytes.tail then
    String.intercalate " " (o.bytes.map fun b => String.ofList (hexByte b))
  else String.intercalate "." (o.path.map toString)

def directory (last : UInt8) : ObjectId := ⟨[0x55, 0x04, last]⟩

def certificateExtension (last : UInt8) : ObjectId := ⟨[0x55, 0x1D, last]⟩

def messageAttribute (last : UInt8) : ObjectId :=
  ⟨[0x2A, 0x86, 0x48, 0x86, 0xF7, 0x0D, 0x01, 0x09, last]⟩

def pilotAttribute (last : UInt8) : ObjectId :=
  ⟨[0x09, 0x92, 0x26, 0x89, 0x93, 0xF2, 0x2C, 0x64, 0x01, last]⟩

def jurisdiction (last : UInt8) : ObjectId :=
  ⟨[0x2B, 0x06, 0x01, 0x04, 0x01, 0x82, 0x37, 0x3C, 0x02, 0x01, last]⟩

def rsaAlgorithm (last : UInt8) : ObjectId :=
  ⟨[0x2A, 0x86, 0x48, 0x86, 0xF7, 0x0D, 0x01, 0x01, last]⟩

def serverAuthentication : ObjectId := ⟨[0x2B, 0x06, 0x01, 0x05, 0x05, 0x07, 0x03, 0x01]⟩

def directoryNames : List (UInt8 × String) :=
  [(0, "objectClass"), (1, "aliasedEntryName"), (2, "knowledgeInformation"), (3, "CN"),
    (4, "surname"), (5, "serialNumber"), (6, "C"), (7, "L"), (8, "ST"), (9, "streetAddress"),
    (10, "O"), (11, "OU"), (12, "title"), (13, "description"), (14, "searchGuide"),
    (15, "businessCategory"), (16, "postalAddress"), (17, "postalCode"), (41, "name"),
    (42, "givenName"), (43, "initials"), (44, "generationQualifier"), (45, "uniqueIdentifier"),
    (46, "dnQualifier")]

def messageAttributeNames : List (UInt8 × String) :=
  [(1, "Email"), (2, "unstructuredName"), (3, "contentType"), (4, "id-messageDigest"),
    (5, "signing-time"), (7, "challengePassword"), (14, "extensionRequest"),
    (15, "smimeCapabilities"), (20, "friendlyName")]

def extensionNames : List (UInt8 × String) :=
  [(14, "subjectKeyIdentifier"), (15, "keyUsage"), (16, "privateKeyUsagePeriod"),
    (17, "subjectAltName"), (18, "issuerAltName"), (19, "basicConstraints"), (20, "crlNumber"),
    (30, "nameConstraints"), (31, "crlDistributionPoints"), (32, "certificatePolicies"),
    (33, "policyMappings"), (35, "authorityKeyIdentifier"), (36, "policyConstraints"),
    (37, "extendedKeyUsage"), (54, "inhibitAnyPolicy")]

def rsaNames : List (UInt8 × String) :=
  [(1, "rsaEncryption"), (5, "sha1WithRSAEncryption"), (11, "sha256WithRSAEncryption"),
    (12, "sha384WithRSAEncryption"), (13, "sha512WithRSAEncryption")]

def jurisdictionNames : List (UInt8 × String) :=
  [(1, "msJurisdictionLocality"), (2, "msJurisdictionStateOrProvince"),
    (3, "msJurisdictionCountry")]

def names : List (ObjectId × String) :=
  let within (branch : UInt8 → ObjectId) (l : List (UInt8 × String)) : List (ObjectId × String) :=
    l.map fun (last, name) => (branch last, name)
  within directory directoryNames ++ within messageAttribute messageAttributeNames ++
    within pilotAttribute [(1, "uid"), (25, "DC")] ++ within jurisdiction jurisdictionNames ++
    within certificateExtension extensionNames ++ within rsaAlgorithm rsaNames

def label (o : ObjectId) : String := (names.lookup o).getD s!"OID({o.text})"

end ObjectId

end MailAudit.Tls
