import MailAudit.Text.Alphanumeric
import MailAudit.Text.Blank
import MailAudit.Text.Utf8

namespace MailAudit.CommandLine.EnvironmentFile

inductive Mode where
  | bare
  | ended
  | singleQuoted
  | doubleQuoted
  | escaped (quoted : Bool)
  | name (quoted : Bool)
  | bracedName (quoted : Bool)
  deriving DecidableEq, Repr

/-- A value so far, and the name of a variable that it refers to, both in reverse. -/
structure Reading where
  mode : Mode := .bare
  value : List Char := []
  name : List Char := []
  deriving Repr

def within (quoted : Bool) : Mode := if quoted then .doubleQuoted else .bare

namespace Reading

def push (p : Reading) (mode : Mode) (c : Char) : Reading := { p with mode, value := c :: p.value }

def resolve (defined? : String → Option String) (p : Reading) (mode : Mode) : Reading :=
  let value := ((defined? (String.ofList p.name.reverse)).getD "").toList
  { mode, value := value.reverse ++ p.value, name := [] }

def escape (p : Reading) (quoted : Bool) (c : Char) : Option Reading :=
  if ['\\', '\'', '"', '$', ' '].contains c then some (p.push (within quoted) c)
  else if c = 'n' then some (p.push (within quoted) '\n')
  else none

def nameChar (defined? : String → Option String) (p : Reading) (quoted : Bool) (c : Char) :
    Reading :=
  if Text.isAlphanumeric c then { p with name := c :: p.name }
  else if c = '\x7b' && p.name.isEmpty then { p with mode := .bracedName quoted }
  else if c = '$' then p.resolve defined? (.name quoted)
  else (p.resolve defined? (within quoted)).push (within quoted) c

def quotedChar (p : Reading) (c : Char) : Reading :=
  if c = '$' then { p with mode := .name true }
  else if c = '"' then { p with mode := .bare }
  else if c = '\\' then { p with mode := .escaped true }
  else p.push .doubleQuoted c

def bareChar (p : Reading) (c : Char) : Reading :=
  if c = '$' then { p with mode := .name false }
  else if c = '\'' then { p with mode := .singleQuoted }
  else if c = '"' then { p with mode := .doubleQuoted }
  else if c = '\\' then { p with mode := .escaped false }
  else if c = ' ' || c = '\t' then { p with mode := .ended }
  else p.push .bare c

def read (defined? : String → Option String) (p : Reading) (c : Char) : Option Reading :=
  match p.mode with
  | .bare => some (p.bareChar c)
  | .ended => if c = ' ' || c = '\t' then some p else none
  | .singleQuoted => some (if c = '\'' then { p with mode := .bare } else p.push .singleQuoted c)
  | .doubleQuoted => some (p.quotedChar c)
  | .escaped quoted => p.escape quoted c
  | .name quoted => some (p.nameChar defined? quoted c)
  | .bracedName quoted =>
      some (if c = '\x7d' then p.resolve defined? (within quoted)
        else { p with name := c :: p.name })

def finish (defined? : String → Option String) (p : Reading) : Option String :=
  let text (p : Reading) : String := String.ofList p.value.reverse
  match p.mode with
  | .bare => some (text p)
  | .ended => some (text p)
  | .escaped false => some (text p)
  | .name false => some (text (p.resolve defined? .bare))
  | _ => none

end Reading

def value? (defined? : String → Option String) (p : Reading) : List Char → Option String
  | [] => p.finish defined?
  | c :: cs =>
      if p.mode = .ended && c = '#' then p.finish defined?
      else (p.read defined? c).bind fun p => value? defined? p cs

def isKeyStart (c : Char) : Bool := c.isAlpha || c = '_'

def isKeyChar (c : Char) : Bool := c.isAlphanum || c = '_' || c = '.'

def key? (cs : List Char) : Option (String × List Char) :=
  if cs.head?.any isKeyStart then
    some (String.ofList (cs.takeWhile isKeyChar), Text.trimStart (cs.dropWhile isKeyChar))
  else none

def assignment? (cs : List Char) : Option (String × List Char) := do
  match ← key? cs with
  | (key, '=' :: rest) => some (key, Text.trimStart rest)
  | ("export", rest) =>
      match ← key? rest with
      | (key, '=' :: rest) => some (key, Text.trimStart rest)
      | _ => none
  | _ => none

def isComment (cs : List Char) : Bool := cs.isEmpty || cs.head? == some '#'

inductive Place where
  | plain
  | blank
  | escaped
  | quoted (double escaped : Bool)
  deriving DecidableEq, Repr

namespace Place

def isOpen (p : Place) : Bool := p != .plain

def next? (p : Place) (c : Char) : Option Place :=
  match p with
  | .escaped => some .plain
  | .quoted double true => some (.quoted double false)
  | .quoted double false =>
      if c = '\\' then some (.quoted double true)
      else if c = (if double then '"' else '\'') then some .plain
      else some p
  | p =>
      if p = .blank && c = '#' then none
      else if c = '\\' then some .escaped
      else if c = '"' then some (.quoted true false)
      else if c = '\'' then some (.quoted false false)
      else if p = .plain && Text.isBlank c && c != '\n' && c != '\r' then some .blank
      else some .plain

def follow (p : Place) (read : List Char) : List Char → Place ⊕ List Char
  | [] => .inl p
  | c :: cs =>
      match p.next? c with
      | some p => p.follow (c :: read) cs
      | none => .inr read.reverse

end Place

def dropLineEnd (cs : List Char) : List Char :=
  if cs.getLast? = some '\n' then Text.dropReturn cs.dropLast else cs

/-- The statements of lines, behind the part of a statement that is already read. What is still open
at the end is no statement. -/
def statements (read : List Char) (p : Place) : List (List Char) → List (List Char)
  | [] => []
  | line :: rest =>
      let text := read ++ line
      if isComment (Text.trimStart text) then [] :: statements [] .plain rest
      else
        match p.follow [] line with
        | .inr before => (read ++ before) :: statements [] .plain rest
        | .inl p =>
            if p.isOpen then statements text p rest
            else dropLineEnd text :: statements [] .plain rest

def assignments (defined? : String → Option String) (known : List (String × String)) :
    List (List Char) → List (String × String)
  | [] => known
  | statement :: rest =>
      let statement := Text.trimChars statement
      if isComment statement then assignments defined? known rest
      else
        let look (name : String) : Option String :=
          (defined? name).orElse fun _ => known.lookup name
        match assignment? statement with
        | none => known
        | some (key, text) =>
            match if isComment text then some "" else value? look {} text with
            | none => known
            | some value => assignments defined? (known ++ [(key, value)]) rest

def lines : List UInt8 → List (List UInt8)
  | [] => []
  | b :: rest =>
      if b = 10 then [b] :: lines rest
      else
        match lines rest with
        | [] => [[b]]
        | line :: more => (b :: line) :: more

def byteOrderMark : List UInt8 := [0xEF, 0xBB, 0xBF]

def readable (content : List UInt8) : List (List Char) :=
  let content := if byteOrderMark.isPrefixOf content then content.drop 3 else content
  (((lines content).map Text.Utf8.decode?).takeWhile Option.isSome).filterMap fun line =>
    line.map String.toList

def lookUp (defined? : String → Option String) (content : List UInt8) (name : String) :
    Option String :=
  (defined? name).orElse fun _ =>
    (assignments defined? [] (statements [] .plain (readable content))).lookup name

end MailAudit.CommandLine.EnvironmentFile
