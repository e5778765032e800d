import MailAudit.Proofs.DomainCheck.Step
import MailAudit.Proofs.Report.Severity

namespace MailAudit

namespace DomainCheck

inductive Event where
  | asked (answer : Except Dns.LookupError (List String))
  | read (answer : Except StoreError (Option HostReport))
  | reused
  | probed (hostname : String)
  | written (answer : Except StoreError Unit)

namespace Event

def isFailedLookup : Event → Bool
  | asked (.error _) => true
  | _ => false

def isFailedRead : Event → Bool
  | read (.error _) => true
  | _ => false

def isReuse : Event → Bool
  | reused => true
  | _ => false

def isProbe : Event → Bool
  | probed _ => true
  | _ => false

def isFailedWrite : Event → Bool
  | written (.error _) => true
  | _ => false

def usesCache : Event → Bool
  | asked _ => false
  | probed _ => false
  | _ => true

theorem of_not_usesCache {e : Event} (h : e.usesCache = false) :
    e.isReuse = false ∧ e.isFailedRead = false ∧ e.isFailedWrite = false := by
  cases e with
  | asked answer => exact ⟨rfl, rfl, rfl⟩
  | probed hostname => exact ⟨rfl, rfl, rfl⟩
  | _ => cases h

end Event

def Finding.events : Finding → List Event
  | uncached => []
  | fresh r => [.read (.ok (some r)), .reused]
  | stale r => [.read (.ok (some r))]
  | absent => [.read (.ok none)]
  | refused e => [.read (.error e)]

def keepEvents (hostname : String) (r : HostReport) (w : World) : List Event :=
  match w.cache with
  | none => []
  | some cache => [.written (cache.put hostname r).2]

namespace Probing

def events (s : Services) (p : Probing) (w : World) : Move → List Event
  | .enter => []
  | .look i =>
      match p.scans[i]? with
      | some ⟨hostname, .looking⟩ => (find s.clock hostname w).events
      | _ => []
  | .land i =>
      match p.scans[i]? with
      | some ⟨hostname, .probing _⟩ => [.probed hostname]
      | _ => []
  | .keep i =>
      match p.scans[i]? with
      | some ⟨hostname, .keeping r⟩ => keepEvents hostname r w
      | _ => []

end Probing

namespace Inquiry

def events (s : Services) (q : Inquiry) (w : World) : Move → List Event
  | .prepare =>
      match q with
      | asked domain _ => [.asked (s.mx (HostName.normalize domain)).1]
      | _ => []
  | .scan m =>
      match q with
      | scanning _ _ p => p.events s w m
      | _ => []
  | .conclude => []

/-- The moves of one inquiry in any order, with what they do. Others may use the cache between
them. -/
inductive Logs (s : Services) (q₀ : Inquiry) (w₀ : World) : List Event → Inquiry → World → Prop
  | refl : Logs s q₀ w₀ [] q₀ w₀
  | tail {es q w m r v} : Logs s q₀ w₀ es q w → q.step? s w m = some (r, v) →
      Logs s q₀ w₀ (es ++ q.events s w m) r v
  | others {es q w cache} : Logs s q₀ w₀ es q w → cache.isSome = w.cache.isSome →
      Logs s q₀ w₀ es q { w with cache }

def log? (s : Services) (q : Inquiry) (w : World) :
    List Move → Option (List Event × Inquiry × World)
  | [] => some ([], q, w)
  | m :: ms =>
      (q.step? s w m).bind fun (r, v) =>
        (r.log? s v ms).map fun (es, r', v') => (q.events s w m ++ es, r', v')

end Inquiry

namespace Stage

def unprobed : Stage → Nat
  | keeping _ => 0
  | _ => 1

def underProbe : Stage → Nat
  | probing _ => 1
  | _ => 0

def unkept : Stage → Nat
  | keeping _ => 1
  | _ => 0

end Stage

/-- What is done for a host in one stage of its scan, before the next stage or the end. -/
structure Trade (es : List Event) (stage : Stage) (next : Option Stage) : Prop where
  lookups : es.countP Event.isFailedLookup = 0
  hosts : es.countP Event.isReuse + es.countP Event.isProbe + next.elim 0 Stage.unprobed =
    stage.unprobed
  -- A host whose read has failed is still to be probed; one whose write may fail has been.
  reads : es.countP Event.isFailedRead + stage.underProbe ≤
    es.countP Event.isProbe + next.elim 0 Stage.underProbe
  writes : es.countP Event.isFailedWrite + next.elim 0 Stage.unkept ≤
    es.countP Event.isProbe + stage.unkept

namespace Trade

variable {f : Finding} {domain hostname : String} {r : HostReport}

theorem reuse (h : f.reused domain hostname = some r) : Trade f.events .looking none := by
  cases f with
  | fresh r => exact ⟨rfl, rfl, Nat.le_refl 0, Nat.le_refl 0⟩
  | _ => cases h

theorem start (h : f.reused domain hostname = none) (endsAt : Nat) :
    Trade f.events .looking (some (.probing endsAt)) := by
  cases f with
  | fresh r => cases h
  | uncached => exact ⟨rfl, rfl, Nat.zero_le 1, Nat.le_refl 0⟩
  | absent => exact ⟨rfl, rfl, Nat.zero_le 1, Nat.le_refl 0⟩
  | stale r => exact ⟨rfl, rfl, Nat.zero_le 1, Nat.le_refl 0⟩
  | refused e => exact ⟨rfl, rfl, Nat.le_refl 1, Nat.le_refl 0⟩

theorem land (endsAt : Nat) (hostname : String) (r : HostReport) :
    Trade [.probed hostname] (.probing endsAt) (some (.keeping r)) :=
  ⟨rfl, rfl, Nat.le_refl 1, Nat.le_refl 1⟩

theorem keep (hostname : String) (r : HostReport) (w : World) :
    Trade (keepEvents hostname r w) (.keeping r) none := by
  rw [keepEvents]
  split
  · exact ⟨rfl, rfl, Nat.le_refl 0, Nat.zero_le 1⟩
  · exact ⟨rfl, rfl, Nat.le_refl 0, List.countP_le_length⟩

end Trade

namespace Probing

variable {s : Services} {p q : Probing} {w v : World} {m : Move} {es : List Event}

def held (f : Stage → Nat) (p : Probing) : Nat := sumOf (p.scans.map fun c => f c.stage)

def ahead (p : Probing) : Nat := p.pending.length + p.held Stage.unprobed

theorem events_look {i : Nat} {hostname : String} (hi : p.scans[i]? = some ⟨hostname, .looking⟩) :
    p.events s w (.look i) = (find s.clock hostname w).events := by
  simp only [events, hi]

theorem events_land {i : Nat} {hostname : String} {endsAt : Nat}
    (hi : p.scans[i]? = some ⟨hostname, .probing endsAt⟩) :
    p.events s w (.land i) = [.probed hostname] := by
  simp only [events, hi]

theorem events_keep {i : Nat} {hostname : String} {r : HostReport}
    (hi : p.scans[i]? = some ⟨hostname, .keeping r⟩) :
    p.events s w (.keep i) = keepEvents hostname r w := by
  simp only [events, hi]

structure Exchange (p : Probing) (es : List Event) (q : Probing) : Prop where
  lookups : es.countP Event.isFailedLookup = 0
  hosts : es.countP Event.isReuse + es.countP Event.isProbe + q.ahead = p.ahead
  reads : es.countP Event.isFailedRead + p.held Stage.underProbe ≤
    es.countP Event.isProbe + q.held Stage.underProbe
  writes : es.countP Event.isFailedWrite + q.held Stage.unkept ≤
    es.countP Event.isProbe + p.held Stage.unkept

section

variable {i : Nat} {hostname : String} {stage next : Stage}

theorem held_set (f : Stage → Nat) (hi : p.scans[i]? = some ⟨hostname, stage⟩)
    (hq : q.scans = p.scans.set i ⟨hostname, next⟩) : q.held f + f stage = p.held f + f next := by
  rw [held, hq]
  exact sumOf_set (fun c => f c.stage) hi ⟨hostname, next⟩

theorem held_eraseIdx (f : Stage → Nat) (hi : p.scans[i]? = some ⟨hostname, stage⟩)
    (hq : q.scans = p.scans.eraseIdx i) : q.held f + f stage = p.held f := by
  rw [held, hq]
  exact sumOf_eraseIdx (fun c => f c.stage) hi

theorem held_append (f : Stage → Nat) (hq : q.scans = p.scans ++ [⟨hostname, stage⟩]) :
    q.held f = p.held f + f stage := by
  rw [held, hq, List.map_append, sumOf_append]
  rfl

theorem exchange_enter (hpending : p.pending = hostname :: q.pending)
    (hscans : q.scans = p.scans ++ [⟨hostname, .looking⟩]) : p.Exchange [] q where
  lookups := rfl
  hosts := by
    have hheld : _ = _ + 1 := held_append Stage.unprobed hscans
    rw [ahead, ahead, hpending, hheld, List.countP_nil, List.countP_nil, List.length_cons]
    omega
  reads := by rw [held_append Stage.underProbe hscans]; exact Nat.le_refl _
  writes := by rw [held_append Stage.unkept hscans]; exact Nat.le_refl _

theorem exchange_set (ht : Trade es stage (some next)) (hpending : q.pending = p.pending)
    (hi : p.scans[i]? = some ⟨hostname, stage⟩)
    (hscans : q.scans = p.scans.set i ⟨hostname, next⟩) : p.Exchange es q := by
  obtain ⟨hlookups, hhosts, hreads, hwrites⟩ := ht
  have hunprobed := held_set Stage.unprobed hi hscans
  have hprobing := held_set Stage.underProbe hi hscans
  have hunkept := held_set Stage.unkept hi hscans
  simp only [Option.elim_some] at hhosts hreads hwrites
  refine ⟨hlookups, ?_, by omega, by omega⟩
  rw [ahead, ahead, hpending]
  omega

theorem exchange_eraseIdx (ht : Trade es stage none) (hpending : q.pending = p.pending)
    (hi : p.scans[i]? = some ⟨hostname, stage⟩) (hscans : q.scans = p.scans.eraseIdx i) :
    p.Exchange es q := by
  obtain ⟨hlookups, hhosts, hreads, hwrites⟩ := ht
  have hunprobed := held_eraseIdx Stage.unprobed hi hscans
  have hprobing := held_eraseIdx Stage.underProbe hi hscans
  have hunkept := held_eraseIdx Stage.unkept hi hscans
  simp only [Option.elim_none] at hhosts hreads hwrites
  refine ⟨hlookups, ?_, by omega, by omega⟩
  rw [ahead, ahead, hpending]
  omega

end

theorem exchange_step (h : Step s p w m q v) : p.Exchange (p.events s w m) q := by
  cases h with
  | enter hp hroom => exact exchange_enter hp rfl
  | reuse hi hr =>
    rw [events_look hi]
    exact exchange_eraseIdx (.reuse hr) rfl hi rfl
  | start hi hr =>
    rw [events_look hi]
    exact exchange_set (.start hr _) rfl hi rfl
  | land hi =>
    rw [events_land hi]
    exact exchange_set (.land _ _ _) rfl hi rfl
  | keep hi =>
    rw [events_keep hi]
    exact exchange_eraseIdx (.keep _ _ w) rfl hi rfl

theorem uncached_step (hw : w.cache = none) (h : Step s p w m q v) :
    v.cache = none ∧ ∀ e ∈ p.events s w m, e.usesCache = false := by
  have hlook (hostname : String) : (cached s p.domain hostname w).2.cache = none ∧
      ∀ e ∈ (find s.clock hostname w).events, e.usesCache = false := by
    refine ⟨?_, ?_⟩
    · rw [(cached_spec s p.domain hostname w).2.2.1, hw]
      rfl
    · rw [find, hw]
      exact fun e he => absurd he List.not_mem_nil
  cases h with
  | enter hp hroom => exact ⟨hw, fun e he => absurd he List.not_mem_nil⟩
  | reuse hi hr =>
    rw [events_look hi]
    exact hlook _
  | start hi hr =>
    rw [events_look hi]
    exact hlook _
  | @land i hostname endsAt hi =>
    refine ⟨(probed_spec s _ _ w).2.2.1.trans hw, fun e he => ?_⟩
    rw [events_land hi, List.mem_singleton] at he
    rw [he]
    rfl
  | keep hi =>
    rw [events_keep hi, keepEvents, (keep_spec _ _ w).2.1, hw]
    exact ⟨rfl, fun e he => absurd he List.not_mem_nil⟩

end Probing

namespace Inquiry

variable {s : Services} {q r : Inquiry} {w v : World} {m : Move} {es : List Event}

def hostless : Inquiry → Bool
  | answered result => result.report.mxHosts.isEmpty
  | _ => false

def preferredCount : Inquiry → Nat
  | asked _ _ => 0
  | scanning _ preferred _ => preferred.length
  | answered result => result.report.preferredHosts.length

def ahead : Inquiry → Nat
  | scanning _ _ p => p.ahead
  | _ => 0

def held (f : Stage → Nat) : Inquiry → Nat
  | scanning _ _ p => p.held f
  | _ => 0

structure Balanced (es : List Event) (q : Inquiry) : Prop where
  named : ∀ hosts preferred p, q = .scanning hosts preferred p → hosts.isEmpty = false
  lookups : es.countP Event.isFailedLookup ≤ q.hostless.toNat
  hosts : es.countP Event.isReuse + es.countP Event.isProbe + q.ahead = q.preferredCount
  reads : es.countP Event.isFailedRead ≤ es.countP Event.isProbe + q.held Stage.underProbe
  writes : es.countP Event.isFailedWrite + q.held Stage.unkept ≤ es.countP Event.isProbe

theorem countP_failedLookup_le (s : Services) (domain : String) :
    [Event.asked (s.mx domain).1].countP Event.isFailedLookup ≤
      (mxNames s domain).isEmpty.toNat := by
  rw [mxNames]
  cases (s.mx domain).1 with
  | ok hosts => exact Nat.zero_le _
  | error e => exact Nat.le_refl 1

section

variable {domain : String} {expected hosts preferred : List String} {p p' : Probing}

theorem Balanced.settle (hb : Balanced es (.asked domain expected)) {name : String}
    {report : DomainReport} (hopened : Opened s name expected (.settled report)) :
    Balanced (es ++ [.asked (s.mx name).1]) (.answered { report }) where
  named _ _ _ heq := by cases heq
  lookups := by
    have hlookup := countP_failedLookup_le s name
    have hnone : es.countP Event.isFailedLookup ≤ 0 := hb.lookups
    rw [← hopened.mxHosts_eq] at hlookup
    rw [List.countP_append]
    exact (Nat.add_le_add hnone hlookup).trans_eq (Nat.zero_add _)
  hosts := by
    rw [List.countP_append, List.countP_append, preferredCount, hopened.preferredHosts_eq]
    exact hb.hosts
  reads := by
    rw [List.countP_append, List.countP_append]
    exact hb.reads
  writes := by
    rw [List.countP_append, List.countP_append]
    exact hb.writes

theorem Balanced.embark (hb : Balanced es (.asked domain expected)) {name other : String}
    (hsome : (mxNames s name).isEmpty = false) :
    Balanced (es ++ [.asked (s.mx name).1])
      (.scanning (mxNames s name) preferred { domain := other, pending := preferred }) where
  named := by
    rintro _ _ _ ⟨⟩
    exact hsome
  lookups := by
    have hlookup := countP_failedLookup_le s name
    have hnone : es.countP Event.isFailedLookup ≤ 0 := hb.lookups
    rw [hsome, Bool.toNat_false] at hlookup
    rw [List.countP_append]
    exact Nat.add_le_add hnone hlookup
  hosts := by
    have hidle : es.countP Event.isReuse + es.countP Event.isProbe = 0 := hb.hosts
    rw [List.countP_append, List.countP_append]
    change es.countP Event.isReuse + 0 + (es.countP Event.isProbe + 0) + (preferred.length + 0) =
      preferred.length
    omega
  reads := by
    rw [List.countP_append, List.countP_append]
    exact hb.reads
  writes := by
    rw [List.countP_append, List.countP_append]
    exact hb.writes

theorem Balanced.scan {es' : List Event} (hb : Balanced es (.scanning hosts preferred p))
    (he : p.Exchange es' p') : Balanced (es ++ es') (.scanning hosts preferred p') := by
  obtain ⟨hnamed, hlookups, hhosts, hreads, hwrites⟩ := hb
  obtain ⟨hnone, hone, hread, hwrite⟩ := he
  simp only [hostless, ahead, held, preferredCount] at hlookups hhosts hreads hwrites
  refine ⟨?_, ?_, ?_, ?_, ?_⟩
  · rintro _ _ _ ⟨⟩
    exact hnamed _ _ _ rfl
  all_goals simp only [hostless, ahead, held, preferredCount, List.countP_append]; omega

theorem Balanced.conclude (hb : Balanced es (.scanning hosts preferred p)) (hdone : p.isDone = true)
    (w : World) : Balanced es (.answered (DomainCheck.conclude s hosts preferred p w).1) := by
  obtain ⟨hpending, hscans⟩ := Probing.isDone_iff.mp hdone
  obtain ⟨⟨now, hreport⟩, -⟩ := conclude_spec s hosts preferred p w
  have hsome : hosts.isEmpty = false := hb.named _ _ _ rfl
  obtain ⟨-, hlookups, hhosts, hreads, hwrites⟩ := hb
  simp only [ahead, held, preferredCount, Probing.ahead, Probing.held, hpending, hscans,
    List.map_nil, List.length_nil, sumOf] at hhosts hreads hwrites
  refine ⟨(fun _ _ _ heq => by cases heq), ?_, ?_, hreads, hwrites⟩
  · rw [hostless, hreport, DomainReport.mxHosts_ofChecks, hsome]
    exact hlookups
  · rw [preferredCount, hreport, DomainReport.preferredHosts_ofChecks]
    exact hhosts

end

theorem balanced_step (hb : Balanced es q) (h : Step s q w m r v) :
    Balanced (es ++ q.events s w m) r := by
  cases h with
  | settle hopened hraised hcache hticks => exact hb.settle hopened
  | embark hsome hchosen => exact hb.embark hsome
  | scan hstep => exact hb.scan (Probing.exchange_step (Probing.step_of_step? hstep))
  | conclude hdone =>
    rw [events, List.append_nil]
    exact hb.conclude hdone w

theorem Logs.balanced {domain : String} {expected : List String} {w₀ : World}
    (h : Logs s (.asked domain expected) w₀ es q w) : Balanced es q := by
  induction h with
  | refl => exact ⟨nofun, Nat.le_refl 0, rfl, Nat.le_refl 0, Nat.le_refl 0⟩
  | tail _ hstep ih => exact balanced_step ih (step_of_step? hstep)
  | others _ _ ih => exact ih

theorem Logs.head (hstep : q.step? s w m = some (r, v)) {q' : Inquiry} {u : World}
    (h : Logs s r v es q' u) :
    Logs s q w (q.events s w m ++ es) q' u := by
  induction h with
  | refl =>
    rw [List.append_nil]
    exact @Logs.tail s q w [] _ _ _ _ _ .refl hstep
  | tail _ hnext ih =>
    rw [← List.append_assoc]
    exact ih.tail hnext
  | others _ hsame ih => exact ih.others hsame

theorem logs_of_log? {ms : List Move} (h : q.log? s w ms = some (es, r, v)) :
    Logs s q w es r v := by
  induction ms generalizing q w es with
  | nil =>
    cases h
    exact .refl
  | cons m ms ih =>
    obtain ⟨⟨next, u⟩, hstep, hrest⟩ := Option.bind_eq_some_iff.mp h
    obtain ⟨⟨later, r', v'⟩, hlater, heq⟩ := Option.map_eq_some_iff.mp hrest
    cases heq
    exact (ih hlater).head hstep

theorem Run.exists_logs {q₀ : Inquiry} {w₀ : World} {ms : List Move} (h : Run s q₀ w₀ ms q w) :
    ∃ es, Logs s q₀ w₀ es q w := by
  induction h with
  | refl => exact ⟨[], .refl⟩
  | tail _ hstep _ ih =>
    obtain ⟨es, hlog⟩ := ih
    exact ⟨_, hlog.tail hstep⟩

theorem uncached_step (hw : w.cache = none) (h : Step s q w m r v) :
    v.cache = none ∧ ∀ e ∈ q.events s w m, e.usesCache = false := by
  cases h with
  | settle hopened hraised hcache hticks =>
    refine ⟨(finish_spec _ _).2.1.trans (hcache.trans hw), fun e he => ?_⟩
    rw [List.mem_singleton.mp he]
    rfl
  | embark hsome hchosen =>
    refine ⟨(mxHosts_spec s _ w).2.2.1.trans hw, fun e he => ?_⟩
    rw [List.mem_singleton.mp he]
    rfl
  | scan hstep => exact Probing.uncached_step hw (Probing.step_of_step? hstep)
  | conclude hdone =>
    refine ⟨?_, fun e he => absurd he List.not_mem_nil⟩
    rw [(finish_spec _ _).2.1, (conclude_spec s _ _ _ w).2.2.2.1, hw]

theorem Logs.uncached {q₀ : Inquiry} {w₀ : World} (hw : w₀.cache = none) (h : Logs s q₀ w₀ es q w) :
    w.cache = none ∧ ∀ e ∈ es, e.usesCache = false := by
  induction h with
  | refl => exact ⟨hw, fun e he => absurd he List.not_mem_nil⟩
  | tail _ hstep ih =>
    obtain ⟨hcache, hevents⟩ := uncached_step ih.1 (step_of_step? hstep)
    refine ⟨hcache, fun e he => ?_⟩
    rcases List.mem_append.mp he with he | he
    · exact ih.2 e he
    · exact hevents e he
  | others _ hsame ih =>
    rw [ih.1, Option.isSome_none, Option.isSome_eq_false_iff, Option.isNone_iff_eq_none] at hsame
    exact ⟨hsame, ih.2⟩

end Inquiry

end DomainCheck

end MailAudit
