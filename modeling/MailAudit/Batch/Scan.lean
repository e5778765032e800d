import MailAudit.Batch.Pipeline
import MailAudit.Csv.Records
import MailAudit.Settings
import MailAudit.Time.Duration

namespace MailAudit.Batch

structure Pool where
  size : Nat
  pos : 1 ≤ size
  le_largest : size ≤ PoolSize.largest
  deriving DecidableEq

namespace Pool

def ofSize (n : Nat) : Except SettingsError Pool :=
  if h : 1 ≤ n ∧ n ≤ PoolSize.largest then .ok ⟨n, h.1, h.2⟩
  else .error (.outOfRange "pool_size" n 1 PoolSize.largest)

end Pool

structure Summary where
  rowsRead : Nat
  rowsSkipped : Nat
  domainsChecked : Nat
  cancelled : Bool
  deriving DecidableEq, Repr

namespace Summary

def text (s : Summary) : String :=
  s!"{s.domainsChecked} domains ({s.rowsRead} rows, {s.rowsSkipped} skipped)"

def note (s : Summary) (elapsed : Duration) : Note :=
  .log .info .batch s!"Scanned {s.text} in {elapsed.inTenths}s"

end Summary

inductive ScanError where
  | config (e : SettingsError)
  | inputRead (row : Nat) (e : Csv.Error)
  deriving DecidableEq, Repr

namespace ScanError

def message : ScanError → String
  | config e => s!"Invalid scan configuration: {e.message}"
  | inputRead row e => s!"Failed to read input at row {row}: {e.message}"

def chain (e : ScanError) : List String :=
  e.message :: match e with
    | config e => [e.message]
    | inputRead _ e => [e.message]

end ScanError

namespace Pipeline

variable {ε ρ σ : Type}

def reports (p : Pipeline ε ρ σ) : List ρ := p.handled.reverse

def summary (p : Pipeline ε ρ σ) : Summary :=
  ⟨p.rowsRead, p.rowsSkipped, p.handled.length, p.cancelled⟩

def outcome (p : Pipeline ε ρ σ) : Except (Nat × ε) Summary :=
  match p.producer with
  | .failed row e => .error (row, e)
  | _ => .ok p.summary

def scanOutcome (p : Pipeline Csv.Error ρ σ) : Except ScanError Summary :=
  p.outcome.mapError fun (row, e) => .inputRead row e

end Pipeline

end MailAudit.Batch
