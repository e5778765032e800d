import MailAudit.Log
import MailAudit.Scans.Store
import MailAudit.Time.Duration

namespace MailAudit.Scans

structure Cache where
  store : Store
  expiry : Duration

namespace Cache

/-- The longest expiry that is measured, in nanoseconds; with a longer one nothing ever expires. -/
def longestExpiry : Nat := (Nat.pow 2 63 - 1) * 1000000

def isFresh (expiry : Duration) (now : Instant) (r : HostReport) : Bool :=
  longestExpiry < expiry.nanoseconds || now.since r.observedAt ≤ (expiry.nanoseconds : Int)

def shown (t : Instant) : String :=
  let text := (Rfc3339.print t).toList.dropLast
  String.ofList (text.map fun c => if c = 'T' then ' ' else c) ++ " UTC"

def staleNote (key : String) (r : HostReport) : Note :=
  .log .debug .cache s!"Cached scan of {key} from {shown r.observedAt} is stale"

def get (c : Cache) (key : String) (now : Instant) :
    Cache × Except StoreError (Option HostReport) × List Note :=
  let (store, answer) := c.store.get key
  let c := { c with store }
  match answer with
  | .ok (some r) =>
      if isFresh c.expiry now r then (c, .ok (some r), []) else (c, .ok none, [staleNote key r])
  | answer => (c, answer, [])

def put (c : Cache) (key : String) (r : HostReport) : Cache × Except StoreError Unit :=
  let (store, answer) := c.store.put key r
  ({ c with store }, answer)

end Cache

end MailAudit.Scans
