import MailAudit.DomainCheck.World
import MailAudit.Report.Policy
import MailAudit.Sum

/-! The hosts of one domain, each taken from the cache or probed. Looking into the cache, probing
and keeping a report are steps of their own, between which others may use the same cache. Hosts
enter in the order of the list, and no more of them are at work at once than allowed. -/

namespace MailAudit

structure Services where
  clock : Clock
  mx : String → Except Dns.LookupError (List String) × List Note
  /-- The report on a host for a domain, if the probe ends at the given instant. -/
  probe : (domain hostname : String) → Instant → HostReport × List Note
  /-- How many milliseconds the probe of a host takes. -/
  delay : String → Nat
  policy : String → Keyed HostReport → Option PolicyReport × List Note
  concurrency : Nat

namespace DomainCheck

structure Flight where
  hostname : String
  startedAt : Nat
  endsAt : Nat
  deriving DecidableEq, Repr

/-- How far the scan of a host has come: it is to be looked up in the cache, it is being probed, or
the report on it is to be kept. -/
inductive Stage where
  | looking
  | probing (endsAt : Nat)
  | keeping (report : HostReport)
  deriving Repr

structure Scan where
  hostname : String
  stage : Stage
  deriving Repr

/-- Each host is pending, at work, or reported on. Reports and probes stand with the latest
first. -/
structure Probing where
  domain : String
  time : Nat := 0
  pending : List String
  scans : List Scan := []
  reports : List (String × HostReport) := []
  probes : List Flight := []
  mostInFlight : Nat := 0
  deriving Repr

def cached (s : Services) (domain hostname : String) (w : World) : Option HostReport × World :=
  match w.cache with
  | none => (none, w)
  | some cache =>
      let (now, w) := w.now s.clock
      let (cache, answer, notes) := cache.get hostname now
      let w := { w.note notes with cache := some cache }
      match answer with
      | .ok (some r) =>
          (some (.observed domain hostname r.checks r.observedAt),
            w.note [.log .debug .domains s!"Using cached scan of {hostname} for {domain}",
              .reached .cacheHit])
      | .ok none => (none, w)
      | .error e =>
          (none, w.note [
            .log .warn .domains s!"Could not read cached scan of {hostname}: {e.message}",
            .failed .cacheRead])

def keep (hostname : String) (r : HostReport) (w : World) : World :=
  match w.cache with
  | none => w
  | some cache =>
      let (cache, outcome) := cache.put hostname r
      let w := { w with cache := some cache }
      match outcome with
      | .ok () => w
      | .error e =>
          w.note [.log .warn .domains s!"Could not cache scan of {hostname}: {e.message}",
            .failed .cacheWrite]

def probed (s : Services) (domain hostname : String) (w : World) : HostReport × World :=
  let (now, w) := w.now s.clock
  let (r, notes) := s.probe domain hostname now
  (r, w.note notes)

def Stage.isProbing : Stage → Bool
  | .probing _ => true
  | _ => false

def Stage.work : Stage → Nat
  | .looking => 3
  | .probing _ => 2
  | .keeping _ => 1

namespace Probing

/-- What can happen next. The number is the place of a scan among those at work. -/
inductive Move where
  | enter
  | look (scan : Nat)
  | land (scan : Nat)
  | keep (scan : Nat)
  deriving DecidableEq, Repr

def inFlight (p : Probing) : Nat := p.scans.countP fun c => c.stage.isProbing

def enter? (s : Services) (p : Probing) : Option Probing :=
  match p.pending with
  | [] => none
  | hostname :: pending =>
      if p.scans.length < max 1 s.concurrency then
        some { p with pending, scans := p.scans ++ [⟨hostname, .looking⟩] }
      else none

def look? (s : Services) (p : Probing) (w : World) (i : Nat) : Option (Probing × World) :=
  match p.scans[i]? with
  | some ⟨hostname, .looking⟩ =>
      match cached s p.domain hostname w with
      | (some r, w) =>
          some ({ p with scans := p.scans.eraseIdx i, reports := (hostname, r) :: p.reports }, w)
      | (none, w) =>
          let endsAt := p.time + s.delay hostname
          let p := { p with
            scans := p.scans.set i ⟨hostname, .probing endsAt⟩
            probes := ⟨hostname, p.time, endsAt⟩ :: p.probes }
          some ({ p with mostInFlight := max p.mostInFlight p.inFlight }, w)
  | _ => none

def land? (s : Services) (p : Probing) (w : World) (i : Nat) : Option (Probing × World) :=
  match p.scans[i]? with
  | some ⟨hostname, .probing endsAt⟩ =>
      let (r, w) := probed s p.domain hostname w
      some ({ p with
        time := max p.time endsAt
        scans := p.scans.set i ⟨hostname, .keeping r⟩ }, w)
  | _ => none

def keep? (p : Probing) (w : World) (i : Nat) : Option (Probing × World) :=
  match p.scans[i]? with
  | some ⟨hostname, .keeping r⟩ =>
      some ({ p with scans := p.scans.eraseIdx i, reports := (hostname, r) :: p.reports },
        DomainCheck.keep hostname r w)
  | _ => none

def step? (s : Services) (p : Probing) (w : World) : Move → Option (Probing × World)
  | .enter => (enter? s p).map fun p => (p, w)
  | .look i => look? s p w i
  | .land i => land? s p w i
  | .keep i => keep? p w i

def isDone (p : Probing) : Bool := p.pending.isEmpty && p.scans.isEmpty

def work (p : Probing) : Nat :=
  4 * p.pending.length + sumOf (p.scans.map fun c => c.stage.work)

theorem work_enter?_lt {s : Services} {p q : Probing} (h : enter? s p = some q) :
    q.work < p.work := by
  simp only [enter?] at h
  split at h
  · cases h
  · rename_i hostname pending hp
    split at h
    · cases h
      simp only [work, hp, List.length_cons, List.map_append, List.map_cons, List.map_nil,
        sumOf_append, sumOf, Stage.work]
      omega
    · cases h

theorem work_look?_lt {s : Services} {p q : Probing} {w v : World} {i : Nat}
    (h : look? s p w i = some (q, v)) : q.work < p.work := by
  simp only [look?] at h
  split at h
  · rename_i hostname hi
    split at h
    · cases h
      have := sumOf_eraseIdx (fun c => c.stage.work) hi
      simp only [work, Stage.work] at this ⊢
      omega
    · cases h
      have := sumOf_set (fun c => c.stage.work) hi ⟨hostname, .probing (p.time + s.delay hostname)⟩
      simp only [work, Stage.work] at this ⊢
      omega
  · cases h

theorem work_land?_lt {s : Services} {p q : Probing} {w v : World} {i : Nat}
    (h : land? s p w i = some (q, v)) : q.work < p.work := by
  simp only [land?] at h
  split at h
  · rename_i hostname endsAt hi
    cases h
    have :=
      sumOf_set (fun c => c.stage.work) hi ⟨hostname, .keeping (probed s p.domain hostname w).1⟩
    simp only [work, Stage.work] at this ⊢
    omega
  · cases h

theorem work_keep?_lt {p q : Probing} {w v : World} {i : Nat} (h : keep? p w i = some (q, v)) :
    q.work < p.work := by
  simp only [keep?] at h
  split at h
  · rename_i hostname r hi
    cases h
    have := sumOf_eraseIdx (fun c => c.stage.work) hi
    simp only [work, Stage.work] at this ⊢
    omega
  · cases h

theorem work_lt_of_step? {s : Services} {p q : Probing} {w v : World} {m : Move}
    (h : step? s p w m = some (q, v)) : q.work < p.work := by
  cases m with
  | enter =>
      obtain ⟨p', hp, heq⟩ := Option.map_eq_some_iff.mp h
      cases heq
      exact work_enter?_lt hp
  | look i => exact work_look?_lt h
  | land i => exact work_land?_lt h
  | keep i => exact work_keep?_lt h

def endOf (p : Probing) (i : Nat) : Nat :=
  match p.scans[i]? with
  | some ⟨_, .probing endsAt⟩ => endsAt
  | _ => 0

def ending (p : Probing) : List Nat :=
  (List.range p.scans.length).mergeSort fun i j => p.endOf i ≤ p.endOf j

/-- Moves that take no time come first. Probes that are due land; then the next host enters, if
there is room; else the probe that ends first lands. -/
def moves (p : Probing) : List Move :=
  (List.range p.scans.length).flatMap (fun i => [.keep i, .look i]) ++
    (p.ending.filter fun i => p.endOf i ≤ p.time).map .land ++ .enter :: p.ending.map .land

def advance? (s : Services) (p : Probing) (w : World) : Option (Probing × World) :=
  p.moves.findSome? (step? s p w)

theorem work_lt_of_advance? {s : Services} {p : Probing} {w : World} {next : Probing × World}
    (h : advance? s p w = some next) : next.1.work < p.work := by
  obtain ⟨_, _, h⟩ := List.exists_of_findSome?_eq_some h
  exact work_lt_of_step? h

def run (s : Services) (p : Probing) (w : World) : Probing × World :=
  match _h : advance? s p w with
  | none => (p, w)
  | some next => run s next.1 next.2
termination_by p.work
decreasing_by exact work_lt_of_advance? _h

end Probing

end DomainCheck

end MailAudit
