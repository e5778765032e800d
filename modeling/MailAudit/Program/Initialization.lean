import MailAudit.Dns.Resolver
import MailAudit.DomainCheck.Check
import MailAudit.MtaSts.Audit
import MailAudit.Program.Directory
import MailAudit.Scans.Address
import MailAudit.Scans.Database
import MailAudit.Settings
import MailAudit.Smtp.Probe

namespace MailAudit.Program

inductive InitializationError where
  | logger
  | tlsConfig (reason : String)
  | scanStore (e : StoreError)
  deriving DecidableEq, Repr

namespace InitializationError

def secondLogger : String :=
  "attempted to set a logger after the logging system was already initialized"

def message : InitializationError → String
  | logger => s!"Logger initialization error: {secondLogger}"
  | tlsConfig reason => s!"TLS configuration error: {reason}"
  | scanStore e => s!"Scan cache initialization error: {e.message}"

def chain (e : InitializationError) : List String :=
  e.message :: match e with
    | logger => [secondLogger]
    | tlsConfig _ => []
    | scanStore e => e.chain

end InitializationError

def startLogger (started : Bool) : Except InitializationError Unit :=
  if started then .error .logger else .ok ()

def trustedRoots (roots : Tls.Roots) : Except InitializationError Tls.Roots :=
  roots.usable.mapError .tlsConfig

/-- Files by path, variables by name, whether the log is read on a terminal, the clock, whom packets
reach, and how many nanoseconds after its start a validator is interrupted. -/
structure Machine where
  files : String → Except FileError (List UInt8)
  /-- Makes an empty file unless there is something at the path, and tells whether it did. -/
  make : String → Except FileError Bool
  environment : String → Option String
  isTerminal : Bool
  clock : Clock
  network : Network
  nameServer : Dns.Server
  mailServer : String → Option Smtp.Server
  webServer : String → Option (List UInt8)
  interrupt : Nat

namespace Machine

def text (m : Machine) (path : String) : Except FileError String :=
  match m.files path with
  | .error e => .error e
  | .ok bytes =>
      match Text.Utf8.decode? bytes with
      | some text => .ok text
      | none => .error .notUtf8

def stored (m : Machine) (path : String) : Except StoreError String :=
  (m.text path).mapError fun e => .unavailable s!"Could not read {path}: {e.message}"

def resolver (m : Machine) : Dns.Resolver := ⟨m.network, m.nameServer⟩

def probe (m : Machine) (client : Smtp.Client) (domain hostname : String) (now : Instant) :
    HostReport × List Note :=
  let (report, _, notes) :=
    client.report (m.network.connect (m.mailServer hostname)) domain hostname now
  (report, notes)

def policy (m : Machine) (template domain : String) (hosts : Keyed HostReport) :
    Option PolicyReport × List Note :=
  let url := MtaSts.Policy.url template domain
  let file := MtaSts.Fetched.fetch (m.network.connect (m.webServer url))
  let (record, asked) := m.resolver.lookup .txt (MtaSts.Audit.recordName domain)
  let (report, notes) := MtaSts.Audit.run domain url file record hosts
  (report, asked ++ notes)

def client (s : Settings) (roots : Tls.Roots) : Smtp.Client :=
  { timeout := s.timeout, port := s.smtpPort, ehloName := s.ehloName, roots }

def services (m : Machine) (s : Settings) (roots : Tls.Roots) : Services :=
  { clock := m.clock
    mx := m.resolver.lookup .mx
    probe := m.probe (client s roots)
    delay := fun _ => 0
    policy := m.policy s.policyUrl
    concurrency := s.hostConcurrency }

def found (m : Machine) (path : String) : Scans.Found :=
  match m.files path with
  | .ok content => .ofContent content
  | .error .isDirectory => .directory
  | .error _ => .nothing

/-- The place of the scan cache: a file is made at the path, and then the path is used as an
address. -/
def cachePlace (m : Machine) (path : String) : Scans.Place :=
  let made := m.make path
  let isNew (target : String) : Bool := target = path && made.toOption == some true
  { made := made.mapError FileError.message
    found := (Scans.Address.ofPath path).map fun
      | .memory => .empty
      | .file target mayCreate =>
          if isNew target || (mayCreate && (m.make target).toOption == some true) then .empty
          else m.found target }

def openStore (m : Machine) (s : Settings) :
    Except InitializationError Scans.Store × List Note :=
  match s.cacheFile with
  | none => (.ok .inMemory, [])
  | some path =>
      let (store, notes) := (m.cachePlace path).openStore
      (store.mapError .scanStore,
        .log .info .initialization s!"Using scan cache at {path}" :: notes)

end Machine

end MailAudit.Program
