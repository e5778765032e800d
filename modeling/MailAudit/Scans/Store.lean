import MailAudit.Scans.Table

namespace MailAudit.Scans

inductive Backing where
  | memory (scans : Keyed HostReport)
  | durable (table : Table)
  deriving Repr

namespace Backing

def get (b : Backing) (key : String) : Except StoreError (Option HostReport) :=
  match b with
  | .memory scans => .ok (scans.get? key)
  | .durable table => table.get key

def put (b : Backing) (key : String) (r : HostReport) : Except StoreError Backing :=
  match b with
  | .memory scans => .ok (.memory (scans.insert key r))
  | .durable table => (table.put key r).map .durable

end Backing

/-- A backing, which of the reads and writes are refused, and how many there have been. -/
structure Store where
  backing : Backing
  readRefusal : Nat → Option StoreError := fun _ => none
  writeRefusal : Nat → Option StoreError := fun _ => none
  reads : Nat := 0
  writes : Nat := 0

namespace Store

def inMemory : Store := { backing := .memory .empty }

def refusingReads (s : Store) : Store :=
  { s with readRefusal := fun _ => some (.unavailable "read refused") }

def refusingWrites (s : Store) : Store :=
  { s with writeRefusal := fun _ => some (.unavailable "write refused") }

def get (s : Store) (key : String) : Store × Except StoreError (Option HostReport) :=
  let answer := match s.readRefusal s.reads with
    | some e => .error e
    | none => s.backing.get key
  ({ s with reads := s.reads + 1 }, answer)

def put (s : Store) (key : String) (r : HostReport) : Store × Except StoreError Unit :=
  let counted := { s with writes := s.writes + 1 }
  match s.writeRefusal s.writes with
  | some e => (counted, .error e)
  | none =>
      match s.backing.put key r with
      | .ok backing => ({ counted with backing }, .ok ())
      | .error e => (counted, .error e)

def onTable {α : Type} (s : Store) (f : Table → Except StoreError (Table × α)) :
    Option (Store × Except StoreError α) :=
  match s.backing with
  | .memory _ => none
  | .durable table =>
      match f table with
      | .ok (table, x) => some ({ s with backing := .durable table }, .ok x)
      | .error e => some (s, .error e)

end Store

end MailAudit.Scans
