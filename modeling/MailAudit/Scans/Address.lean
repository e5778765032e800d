import MailAudit.Scans.StoreError
import MailAudit.Text.Blank
import MailAudit.Text.Decimal
import MailAudit.Text.Quoted
import MailAudit.Text.Utf8

/-! Where a database is kept: a path is taken as an address, in which a percent sign stands before
the number of a byte and a question mark before settings. -/

namespace MailAudit.Scans

inductive Address where
  | memory
  /-- A file, which may be made if it is missing. -/
  | file (path : String) (mayCreate : Bool)
  deriving DecidableEq, Repr

namespace Address

def hexValue? (b : UInt8) : Option Nat :=
  let c := (Char.ofNat b.toNat).toLower
  if Text.Decimal.isDigit c then some (Text.Decimal.digitValue c)
  else if 'a' ≤ c && c ≤ 'f' then some (c.toNat - 'a'.toNat + 10)
  else none

def decodePercent : List UInt8 → List UInt8
  | 37 :: high :: low :: rest =>
      match hexValue? high, hexValue? low with
      | some h, some l => (16 * h + l).toUInt8 :: decodePercent rest
      | _, _ => 37 :: decodePercent (high :: low :: rest)
  | b :: rest => b :: decodePercent rest
  | [] => []

def describeFault (bytes : List UInt8) : String :=
  let start := Text.Utf8.validLength bytes
  match (Text.Utf8.pieces bytes).dropWhile fun piece => piece.char?.isSome with
  | [.broken width] =>
      if (bytes.drop start).head?.any (fun b => (Text.Utf8.Lead.ofByte? b).isSome) then
        s!"incomplete utf-8 byte sequence from index {start}"
      else s!"invalid utf-8 sequence of {width} bytes from index {start}"
  | .broken width :: _ => s!"invalid utf-8 sequence of {width} bytes from index {start}"
  | _ => ""

def pathOf (text : String) : Except DatabaseError String :=
  let bytes := decodePercent (Text.Utf8.encode text)
  match Text.Utf8.decode? bytes with
  | some path => .ok path
  | none => .error (.address (describeFault bytes))

/-- The address after repeated words that say what it is the address of. -/
def dropScheme (scheme : List Char) : (limit : Nat) → List Char → List Char
  | 0, cs => cs
  | limit + 1, cs =>
      if scheme.isPrefixOf cs then dropScheme scheme limit (cs.drop scheme.length) else cs

def settings (cs : List Char) : List (String × String) :=
  let decoded (cs : List Char) : String :=
    let spaced := String.ofList (cs.map fun c => if c = '+' then ' ' else c)
    Text.Utf8.decodeLossy (decodePercent (Text.Utf8.encode spaced))
  ((Text.splitAll '&' cs).filter (!·.isEmpty)).map fun part =>
    match Text.splitOnce '=' part with
    | some (name, value) => (decoded name, decoded value)
    | none => (decoded part, "")

def values? (name : String) : Option (Option (List String)) :=
  match name with
  | "mode" => some (some ["ro", "rw", "rwc", "memory"])
  | "cache" => some (some ["private", "shared"])
  | "immutable" => some (some ["true", "1", "false", "0"])
  | "vfs" => some none
  | _ => none

def checkSetting (setting : String × String) : Except DatabaseError Unit :=
  let (name, value) := setting
  let tick := String.ofList [Char.ofNat 96]
  match values? name with
  | none =>
      .error (.address s!"unknown query parameter {tick}{name}{tick} while parsing connection URL")
  | some values =>
      if values.all (·.contains value) then .ok ()
      else .error (.address s!"unknown value {Text.quoted value} for {tick}{name}{tick}")

def inLocation (cs : List Char) : List Char :=
  let cs := if "//".toList.isPrefixOf cs then (cs.drop 2).dropWhile (· != '/') else cs
  cs.takeWhile fun c => c != '#' && c != '?'

/-- A database without a name, or with this one, is kept in memory. -/
def memoryName : String := ":memory:"

def ofName (path : String) (mayCreate : Bool) : Except DatabaseError Address := do
  let mark := "file:".toList
  let path ←
    if mark.isPrefixOf path.toList then pathOf (String.ofList (inLocation (path.toList.drop 5)))
    else .ok path
  .ok (if path = "" || path = memoryName then .memory else .file path mayCreate)

def ofPath (path : String) : Except DatabaseError Address := do
  let cs := "sqlite:".toList ++ path.toList
  let cs := dropScheme "sqlite:".toList cs.length (dropScheme "sqlite://".toList cs.length cs)
  let (name, settings) := match Text.splitOnce '?' cs with
    | some (name, rest) => (String.ofList name, settings rest)
    | none => (String.ofList cs, [])
  let path ← pathOf name
  settings.forM checkSetting
  let mode := (settings.reverse.lookup "mode").getD "rw"
  if name = memoryName || settings.contains ("mode", "memory") then .ok .memory
  else ofName path (mode = "rwc")

end Address

end MailAudit.Scans
