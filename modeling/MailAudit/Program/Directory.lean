import MailAudit.Text.Blank
import MailAudit.Text.Utf8

namespace MailAudit.Program

inductive FileError where
  | notFound
  | denied
  | notDirectory
  | isDirectory
  | nameTooLong
  | notUtf8
  deriving DecidableEq, Repr

namespace FileError

def message : FileError → String
  | notFound => "No such file or directory (os error 2)"
  | denied => "Permission denied (os error 13)"
  | notDirectory => "Not a directory (os error 20)"
  | isDirectory => "Is a directory (os error 21)"
  | nameTooLong => "File name too long (os error 36)"
  | notUtf8 => "stream did not contain valid UTF-8"

end FileError

inductive Spot where
  | directory
  | file (content : List UInt8)
  | free
  deriving DecidableEq, Repr

/-- A directory with files and no further directories, from which paths are followed. A name stands
for it at the start of a path. -/
structure Directory where
  name : String
  files : List (String × List UInt8)
  deriving Repr

namespace Directory

def maxNameLength : Nat := 255

def maxPathLength : Nat := 4095

def follow (d : Directory) : (within : Bool) → List String → Except FileError Spot
  | _, [] => .ok .directory
  | within, part :: rest =>
      if part = "" || part = "." then d.follow within rest
      else if part = ".." then d.follow false rest
      else if maxNameLength < part.utf8ByteSize then .error .nameTooLong
      else
        match if within then d.files.lookup part else none with
        | some content => if rest.isEmpty then .ok (.file content) else .error .notDirectory
        | none => if rest.isEmpty then .ok .free else .error .notFound

def partsOf (d : Directory) (path : String) : Bool × List String :=
  let parts := (Text.splitAll '/' path.toList).map String.ofList
  match parts with
  | first :: rest =>
      if first = d.name then (true, rest)
      else if first = "" && !rest.isEmpty then (false, rest)
      else (true, parts)
  | [] => (true, [])

def rootNames : List String :=
  ["bin", "boot", "dev", "etc", "home", "lib", "media", "mnt", "opt", "proc", "root", "run", "sbin",
    "srv", "sys", "tmp", "usr", "var"]

def emptyFile : String := "/dev/null"

def common? (path : String) : Option Spot :=
  if path = emptyFile then some (.file [])
  else
    match (path.splitOn "/").filter (· != "") with
    | [name] => if path.startsWith "/" && rootNames.contains name then some .directory else none
    | _ => none

def spot (d : Directory) (path : String) : Except FileError Spot :=
  if path = "" then .error .notFound
  else if maxPathLength < path.utf8ByteSize then .error .nameTooLong
  else
    match common? path with
    | some spot => .ok spot
    | none =>
        let (within, parts) := d.partsOf path
        d.follow within parts

def read (d : Directory) (path : String) : Except FileError (List UInt8) := do
  match ← d.spot path with
  | .directory => .error .isDirectory
  | .file content => .ok content
  | .free => .error .notFound

/-- The path of a new file does not end with a slash behind a name. -/
def endsAsDirectory (path : String) : Bool :=
  let parts := Text.splitAll '/' path.toList
  parts.getLast? == some [] &&
    match parts.reverse.dropWhile (·.isEmpty) with
    | [] => false
    | last :: _ => last != ['.'] && last != ['.', '.']

def make (d : Directory) (path : String) : Except FileError Bool := do
  let bare := String.ofList (Text.dropEndWhile (· = '/') path.toList)
  if endsAsDirectory path then
    let above := String.ofList (Text.dropEndWhile (· != '/') bare.toList)
    match if above = "" then .ok .directory else d.spot above with
    | .error e => .error e
    | .ok .directory => .error .isDirectory
    | .ok _ => .error .notDirectory
  else
    match ← d.spot path with
    | .free => .ok true
    | _ => .ok false

end Directory

end MailAudit.Program
