import MailAudit.Dns.Zone
import MailAudit.Scans.Cache

namespace MailAudit

/-- The journal has the latest note first. -/
structure World where
  cache : Option Scans.Cache := none
  ticks : Nat := 0
  journal : List Note := []

namespace World

def note (w : World) (notes : List Note) : World :=
  { w with journal := notes.reverse ++ w.journal }

def now (w : World) (clock : Clock) : Instant × World :=
  (clock w.ticks, { w with ticks := w.ticks + 1 })

def notes (w : World) : List Note := w.journal.reverse

def tally (w : World) : Tally := Note.tally w.journal

end World

end MailAudit
