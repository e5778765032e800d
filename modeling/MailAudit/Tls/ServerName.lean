import MailAudit.Tls.Address

namespace MailAudit.Tls

inductive ServerName where
  | dns (name : String)
  | address (a : Address)
  deriving DecidableEq, Repr

namespace ServerName

open MailAudit.Text

def isNameChar (c : Char) : Bool :=
  Decimal.isDigit c || ('a' ≤ c && c ≤ 'z') || ('A' ≤ c && c ≤ 'Z') || c == '_' || c == '-'

/-- From 1 to 63 letters, digits, underscores and hyphens, without a hyphen at either end. -/
def isLabel (label : List Char) : Bool :=
  !label.isEmpty && label.length ≤ 63 && label.all isNameChar &&
    label.head? != some '-' && label.getLast? != some '-'

/-- The labels of a name; one dot at the end belongs to none. -/
def labels (cs : List Char) : List (List Char) :=
  let parts := splitAll '.' cs
  if 1 < parts.length && parts.getLast? == some [] then parts.dropLast else parts

/-- At most 253 characters in labels, of which the last is not a number. -/
def isDnsName (cs : List Char) : Bool :=
  let labels := labels cs
  cs.length ≤ 253 && labels.all isLabel && !(labels.getLastD []).all Decimal.isDigit

def of? (name : String) : Option ServerName :=
  if isDnsName name.toList then some (.dns name)
  else (Address.ofChars? name.toList).map .address

def invalidReason : String := "invalid dns name"

end ServerName

end MailAudit.Tls
