import MailAudit.Report.Host
import MailAudit.Scans.StoreError

namespace MailAudit.Scans

structure Row where
  scannedAt : Int
  report : String
  deriving DecidableEq, Repr

namespace Row

def ofReport (r : HostReport) : Row := ⟨r.observedAt.milliseconds, r.print⟩

def report? (row : Row) : Except StoreError HostReport :=
  match HostReport.read? row.report with
  | some r => .ok r
  | none => .error (.serialization "not a host report")

end Row

structure Table where
  rows : Option (Keyed Row)
  deriving DecidableEq, Repr

namespace Table

def empty : Table := ⟨some .empty⟩

def missing : StoreError := .sql (.reported "(code: 1) no such table: hostname_scans")

def withRows (t : Table) : Except StoreError (Keyed Row) :=
  match t.rows with
  | some rows => .ok rows
  | none => .error missing

def get (t : Table) (key : String) : Except StoreError (Option HostReport) := do
  match (← t.withRows).get? key with
  | none => .ok none
  | some row => some <$> row.report?

def putRow (t : Table) (key : String) (row : Row) : Except StoreError Table := do
  let rows ← t.withRows
  .ok ⟨some (rows.insert key row)⟩

def put (t : Table) (key : String) (r : HostReport) : Except StoreError Table :=
  t.putRow key (.ofReport r)

def prune (t : Table) (cutoff : Int) : Except StoreError (Table × Nat) := do
  let rows ← t.withRows
  let kept := rows.filter fun _ row => cutoff ≤ row.scannedAt
  .ok (⟨some kept⟩, rows.size - kept.size)

def drop (t : Table) : Except StoreError Table := do
  let _ ← t.withRows
  .ok ⟨none⟩

end Table

end MailAudit.Scans
