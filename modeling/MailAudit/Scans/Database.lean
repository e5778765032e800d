import MailAudit.Log
import MailAudit.Scans.Store
import MailAudit.Text.Utf8

namespace MailAudit.Scans

inductive Found where
  | nothing
  | directory
  | empty
  | garbage
  | otherSchema
  | database (table : Table)
  deriving DecidableEq, Repr

namespace Found

def mark : List UInt8 := Text.Utf8.encode "SQLite format 3\x00"

/-- The sizes that a page of a database may have, of which 1 stands for 65536. -/
def pageSizes : List Nat := [1, 512, 1024, 2048, 4096, 8192, 16384, 32768]

/-- Whether a file begins as a database does: with the mark, the size of its pages, its versions,
and how much of a page may be used by one entry. -/
def hasHeader (content : List UInt8) : Bool :=
  let byte (i : Nat) : Nat := (content.getD i 0).toNat
  mark.isPrefixOf content && pageSizes.contains (256 * byte 16 + byte 17) && byte 18 ≤ 2 &&
    byte 19 ≤ 2 && [byte 21, byte 22, byte 23] == [64, 32, 32]

/-- A file of a single byte counts as empty. The table of a database is not read. -/
def ofContent (content : List UInt8) : Found :=
  if content.length ≤ 1 then empty
  else if hasHeader content then database .empty
  else garbage

def cannotOpen : String := "(code: 14) unable to open database file"

def notADatabase : String := "(code: 26) file is not a database"

def openTable (f : Found) : Except StoreError Table × List Note :=
  let failed (doing reason : String) : Except StoreError Table × List Note :=
    let e := DatabaseError.reported reason
    (.error (.sql e), [.log .error .files s!"Failed to {doing}: {e.message}"])
  match f with
  | .nothing => failed "connect to database" cannotOpen
  | .directory => failed "connect to database" cannotOpen
  | .empty => (.ok .empty, [])
  | .garbage => failed "set WAL mode" notADatabase
  | .otherSchema =>
      (.error (.migration "migration 1 was previously applied but has been modified"), [])
  | .database table => (.ok table, [])

end Found

/-- The place of the file: whether the file was made, or why it could not be, and what its address
leads to after that. -/
structure Place where
  made : Except String Bool
  found : Except DatabaseError Found
  deriving Repr

namespace Place

def new : Place := ⟨.ok true, .ok .empty⟩

def existing (f : Found) : Place := ⟨.ok false, .ok f⟩

def refused (reason : String) : Place := ⟨.error reason, .ok .nothing⟩

def creationNote (made : Bool) : Note :=
  if made then .log .info .files "Database file created successfully."
  else .log .info .files "Database file already exists."

def openTable (p : Place) : Except StoreError Table × List Note :=
  match p.made with
  | .error reason =>
      (.error (.fileCreation reason),
        [.log .error .files s!"Failed to create database file: {reason}"])
  | .ok made =>
      match p.found with
      | .error e =>
          (.error (.sql e), [creationNote made, .log .error .files
            s!"Failed to connect to database: {e.message}"])
      | .ok f =>
          let (table, notes) := f.openTable
          (table, creationNote made :: notes)

def openStore (p : Place) : Except StoreError Store × List Note :=
  let (table, notes) := p.openTable
  (table.map fun t => { backing := .durable t }, notes)

end Place

namespace Store

/-- What is found after the program has been started again: nothing in memory, and the table in the
file. -/
def reopen (s : Store) : Except StoreError Store :=
  match s.backing with
  | .memory _ => .ok .inMemory
  | .durable table => (Place.existing (.database table)).openStore.1

end Store

end MailAudit.Scans
