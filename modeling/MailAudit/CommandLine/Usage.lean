import MailAudit.CommandLine.Invocation

namespace MailAudit.CommandLine

namespace Refusal

def reason : Refusal → String
  | help => "help was asked for"
  | version => "the version was asked for"
  | noArguments => "there are no arguments"
  | missingSubcommand => "a subcommand is missing"
  | missingArgument => "an argument is missing"
  | unknownSubcommand => "there is no such subcommand"
  | unknownArgument => "there is no such argument"
  | invalidValue => "a value is missing or not allowed"
  | malformedValue => "a value is not a number in range"
  | unexpectedValue => "a value was given to a flag"
  | repeated => "an option was given twice"

def isRequest : Refusal → Bool
  | help | version => true
  | _ => false

end Refusal

namespace Usage

variable {α : Type}

def option (o : Opt α) : String :=
  match o.effect with
  | .flag _ => s!"  --{o.name}"
  | .value _ => s!"  --{o.name} <VALUE>"

def operand (c : Subcommand) : String :=
  match c with
  | .check => "<DOMAIN>..."
  | .scan => "<FILE>"
  | .validate => "<POLICIES>"

def subcommand (c : Subcommand) : List String :=
  s!"{c.name} {operand c}" :: c.ownOptions.map option

def text : String :=
  let sections := ["Usage: starttls_check [OPTIONS] <COMMAND>"] :: Subcommand.all.map subcommand ++
    ["Options of every command:" :: sharedOptions.map option]
  String.intercalate "\n\n" (sections.map (String.intercalate "\n")) ++ "\n"

def refusal (r : Refusal) : String :=
  if r.isRequest then text else s!"error: {r.reason}\n\n{text}"

end Usage

end MailAudit.CommandLine
