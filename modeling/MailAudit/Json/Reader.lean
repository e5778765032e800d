import MailAudit.Json.Token

namespace MailAudit.Json

inductive Frame where
  | array (elements : List Json)
  | object (members : List (Option String × Json))
  | member (members : List (Option String × Json)) (name : Option String)
  deriving Repr

inductive Awaited where
  | value
  | elementOrClose
  | memberOrClose
  | name
  | colon
  | commaOrClose
  | nothing (result : Json)
  deriving Repr

abbrev Position := Awaited × List Frame

def place (v : Json) : List Frame → Option Position
  | [] => some (.nothing v, [])
  | .array elements :: frames => some (.commaOrClose, .array (v :: elements) :: frames)
  | .member members name :: frames =>
      some (.commaOrClose, .object ((name, v) :: members) :: frames)
  | .object _ :: _ => none

def takeValue (token : Token) (frames : List Frame) : Option Position :=
  match token with
  | .literal v => place v frames
  | .string s => place (.string s) frames
  | .openArray => some (.elementOrClose, .array [] :: frames)
  | .openObject => some (.memberOrClose, .object [] :: frames)
  | _ => none

def takeName (token : Token) (frames : List Frame) : Option Position :=
  match token, frames with
  | .string name, .object members :: frames => some (.colon, .member members name :: frames)
  | _, _ => none

def close (token : Token) (frames : List Frame) : Option Position :=
  match token, frames with
  | .closeArray, .array elements :: frames => place (.array elements.reverse) frames
  | .closeObject, .object members :: frames => place (.object members.reverse) frames
  | _, _ => none

def advance (position : Position) (token : Token) : Option Position :=
  let frames := position.2
  match position.1 with
  | .value => takeValue token frames
  | .elementOrClose =>
      match token with
      | .closeArray => close token frames
      | _ => takeValue token frames
  | .memberOrClose =>
      match token with
      | .closeObject => close token frames
      | _ => takeName token frames
  | .name => takeName token frames
  | .colon =>
      match token with
      | .colon => some (.value, frames)
      | _ => none
  | .commaOrClose =>
      match token, frames with
      | .comma, .array _ :: _ => some (.value, frames)
      | .comma, .object _ :: _ => some (.name, frames)
      | _, _ => close token frames
  | .nothing _ => none

def assemble : Position → List Token → Option Json
  | (.nothing v, _), [] => some v
  | _, [] => none
  | position, token :: tokens => do
      let position ← advance position token
      assemble position tokens

def parse? (s : String) : Option Json := do
  let tokens ← tokens? s
  assemble (.value, []) tokens

end MailAudit.Json
