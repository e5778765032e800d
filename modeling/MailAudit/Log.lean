import MailAudit.Tally

namespace MailAudit

namespace Log

inductive Level where
  | error
  | warn
  | info
  | debug
  | trace
  deriving DecidableEq, Repr

namespace Level

def rank : Level → Nat
  | error => 0
  | warn => 1
  | info => 2
  | debug => 3
  | trace => 4

def name : Level → String
  | error => "ERROR"
  | warn => "WARN"
  | info => "INFO"
  | debug => "DEBUG"
  | trace => "TRACE"

def word : Level → String
  | error => "error"
  | warn => "warn"
  | info => "info"
  | debug => "debug"
  | trace => "trace"

def all : List Level := [error, warn, info, debug, trace]

def ofWord? (w : String) : Option Level := all.find? (·.word == w)

end Level

inductive Area where
  | program
  | run
  | statistics
  | settings
  | initialization
  | files
  | cache
  | dns
  | domains
  | smtp
  | probe
  | certificates
  | policies
  | batch
  | handlers
  | revalidation
  deriving DecidableEq, Repr

def Area.target : Area → String
  | program => "starttls_check"
  | run => "starttls_check::run"
  | statistics => "starttls_check::app::statistics"
  | settings => "starttls_check::config::types"
  | initialization => "starttls_check::initialization"
  | files => "starttls_check::storage::pool"
  | cache => "starttls_check::cache"
  | dns => "starttls_check::dns::records"
  | domains => "starttls_check::domain"
  | smtp => "starttls_check::smtp"
  | probe => "starttls_check::smtp::probe"
  | certificates => "starttls_check::tls"
  | policies => "starttls_check::mta_sts"
  | batch => "starttls_check::scan"
  | handlers => "starttls_check::scan::handlers"
  | revalidation => "starttls_check::validator"

structure Entry where
  level : Level
  area : Area
  message : String
  deriving DecidableEq, Repr

end Log

inductive Note where
  | raised (counter : Counter)
  | logged (entry : Log.Entry)
  deriving DecidableEq, Repr

namespace Note

def log (level : Log.Level) (area : Log.Area) (message : String) : Note :=
  .logged ⟨level, area, message⟩

def failed (f : Failure) : Note := .raised (.failure f)

def reached (m : Milestone) : Note := .raised (.milestone m)

def counter? : Note → Option Counter
  | .raised c => some c
  | .logged _ => none

def entry? : Note → Option Log.Entry
  | .raised _ => none
  | .logged e => some e

def counters (notes : List Note) : List Counter := notes.filterMap counter?

def entries (notes : List Note) : List Log.Entry := notes.filterMap entry?

def tally (notes : List Note) : Tally := .ofList (counters notes)

def messagesAt (level : Log.Level) (notes : List Note) : List String :=
  ((entries notes).filter fun e => e.level == level).map (·.message)

end Note

end MailAudit
