import MailAudit.Proofs.Scans.Freshness

/-! Removing old rows from a durable table. The time of a row is rounded down to milliseconds, and
so is the cutoff; what a cache would still hand out is never among the rows removed. -/

namespace MailAudit.Scans

structure Pruned (rows kept : Keyed Row) (cutoff : Int) (removed : Nat) : Prop where
  get?_eq_some_iff :
    ∀ key row, kept.get? key = some row ↔ rows.get? key = some row ∧ cutoff ≤ row.scannedAt
  removed_eq : removed = rows.keys.countP fun key => (kept.get? key).isNone

variable {rows kept : Keyed Row} {cutoff : Int} {removed : Nat} {ops : List Op}

theorem Table.exists_prune (rows : Keyed Row) (cutoff : Int) :
    ∃ kept removed, Table.prune ⟨some rows⟩ cutoff = .ok (⟨some kept⟩, removed) ∧
      Pruned rows kept cutoff removed := by
  refine ⟨rows.filter fun _ row => cutoff ≤ row.scannedAt, _, rfl, fun key row => ?_, ?_⟩
  · rw [Keyed.get?_filter_eq_some_iff, decide_eq_true_eq]
  · rw [← rows.size_filter fun _ row => cutoff ≤ row.scannedAt]
    exact Nat.add_sub_cancel_left _ _

namespace Store

variable {s : Store}

theorem exists_prune (h : s.backing = .durable ⟨some rows⟩) (cutoff : Int) :
    ∃ kept removed, s.onTable (·.prune cutoff) =
        some ({ s with backing := .durable ⟨some kept⟩ }, .ok removed) ∧
      Pruned rows kept cutoff removed := by
  obtain ⟨kept, removed, hprune, hpruned⟩ := Table.exists_prune rows cutoff
  refine ⟨kept, removed, ?_, hpruned⟩
  rw [onTable, h]
  simp only [hprune]

theorem get_of_kept (h : s.backing = .durable ⟨some rows⟩) {key : String}
    (hkept : kept.get? key = rows.get? key) :
    ({ s with backing := .durable ⟨some kept⟩ } : Store).get key =
      ({ (s.get key).1 with backing := .durable ⟨some kept⟩ }, (s.get key).2) := by
  simp only [get, h, Backing.get, Table.get, Table.withRows, bind, Except.bind, hkept]

end Store

namespace Cache

variable {expiry : Duration} {now : Instant} {key : String} {r : HostReport}

theorem get_eq_some_iff (c : Cache) :
    (c.get key now).2.1 = .ok (some r) ↔
      (c.store.get key).2 = .ok (some r) ∧ isFresh c.expiry now r = true := by
  simp only [get]
  split
  · rename_i r' hread
    rw [hread, Except.ok.injEq, Option.some_inj]
    split
    · rename_i hfresh
      rw [Except.ok.injEq, Option.some_inj]
      exact ⟨fun heq => ⟨heq, heq ▸ hfresh⟩, And.left⟩
    · rename_i hstale
      constructor
      · intro h
        cases h
      · rintro ⟨rfl, hfresh⟩
        exact absurd hfresh hstale
  · rename_i hread
    exact ⟨fun h => absurd h (hread r), fun h => absurd h.1 (hread r)⟩

theorem age_le_of_isFresh (hnow : now.nanos < 1000000000) (h : isFresh expiry now r = true) :
    now.nanoseconds - r.observedAt.nanoseconds ≤ expiry.nanoseconds := by
  have hspan := now.nanoseconds_sub_le_longestExpiry r.observedAt
  have hsince := Instant.nanoseconds_sub_le_since hnow r.observedAt
  simp only [isFresh, Bool.or_eq_true, decide_eq_true_eq] at h
  omega

end Cache

namespace Row

theorem scannedAt_ofReport (r : HostReport) :
    (ofReport r).scannedAt = r.observedAt.nanoseconds / 1000000 :=
  r.observedAt.nanoseconds_div_eq.symm

theorem eq_of_report?_ofReport {r r' : HostReport} (h : (ofReport r).report? = .ok r') :
    r = r' := by
  simp only [report?, ofReport, HostReport.read?_print] at h
  split at h
  · rename_i heq
    cases h
    exact Option.some_inj.mp (Option.ite_none_right_eq_some.mp heq).2
  · cases h

end Row

theorem Store.Holds.lastPut?_of_get {s : Store} (h : s.Holds .table ops) {key : String}
    {r : HostReport} (hread : (s.get key).2 = .ok (some r)) : Op.lastPut? ops key = some r := by
  simp only [Store.get, h.reads, Backing.get_eq_read, h.ofKind, h.stored] at hread
  cases hlast : Op.lastPut? ops key with
  | none =>
    rw [hlast] at hread
    cases hread
  | some r' =>
    simp only [hlast, Option.map_some, Backing.Kind.read, Backing.Kind.entryOf] at hread
    cases hreport : (Row.ofReport r').report? with
    | error e =>
      rw [hreport] at hread
      cases hread
    | ok r'' =>
      rw [hreport] at hread
      cases hread
      rw [Row.eq_of_report?_ofReport hreport]

/-- What a cache hands out lies in a row that is not older than the expiry, in whole
milliseconds. -/
theorem le_scannedAt_of_isFresh {now : Instant} {n : Nat} {r : HostReport}
    (hnow : now.nanos < 1000000000) (h : Cache.isFresh (.ofMilliseconds n) now r = true) :
    now.nanoseconds / 1000000 - n ≤ (Row.ofReport r).scannedAt := by
  have hage := Cache.age_le_of_isFresh hnow h
  simp only [Duration.ofMilliseconds, Nat.cast_mul, Nat.cast_ofNat] at hage
  rw [Row.scannedAt_ofReport]
  omega

/-- Of a table that was filled by puts, with gets and restarts between them, pruning keeps each row
whose time in whole milliseconds is not before the cutoff, and counts the others. If the cutoff is
the expiry of a cache before `now`, then what the cache hands out at `now` it still hands out after
the pruning. -/
theorem pruning_spares_what_is_fresh (ops : List Op) :
    ∃ opened rows, Place.new.openStore.1 = .ok opened ∧
      let s : Store := (opened.serveAll Store.reopen ops).1
      s.backing = .durable ⟨some rows⟩ ∧
      (∀ key, rows.get? key = (Op.lastPut? ops key).map .ofReport) ∧
      ∀ cutoff : Int, ∃ (kept : Keyed Row) (removed : Nat) (pruned : Store),
        s.onTable (·.prune cutoff) = some (pruned, .ok removed) ∧
        pruned.backing = .durable ⟨some kept⟩ ∧
        (∀ key row, kept.get? key = some row ↔ rows.get? key = some row ∧
          ∃ r, Op.lastPut? ops key = some r ∧ cutoff ≤ r.observedAt.nanoseconds / 1000000) ∧
        removed = rows.keys.countP (fun key => (kept.get? key).isNone) ∧
        ∀ (now : Instant) (n : Nat), now.nanos < 1000000000 →
          cutoff = now.nanoseconds / 1000000 - n →
          ∀ key r, ((Cache.mk s (.ofMilliseconds n)).get key now).2.1 = .ok (some r) →
            ((Cache.mk pruned (.ofMilliseconds n)).get key now).2.1 = .ok (some r) := by
  let opened : Store := { backing := .durable .empty }
  have hopened : opened.Holds .table [] := ⟨rfl, fun _ => rfl, fun _ => rfl, fun _ => rfl⟩
  have hholds : (opened.serveAll Store.reopen ops).1.Holds .table ops :=
    hopened.serveAll Store.keeps_reopen nofun ops
  obtain ⟨rows, hbacking, hrow⟩ := hholds.exists_rows
  refine ⟨opened, rows, rfl, hbacking, hrow, fun cutoff => ?_⟩
  obtain ⟨kept, removed, hprune, hpruned⟩ := Store.exists_prune hbacking cutoff
  refine ⟨kept, removed, _, hprune, rfl, fun key row => ?_, hpruned.removed_eq, ?_⟩
  · rw [hpruned.get?_eq_some_iff, hrow]
    refine and_congr_right fun hput => ?_
    obtain ⟨r, hlast, rfl⟩ := Option.map_eq_some_iff.mp hput
    rw [Row.scannedAt_ofReport]
    constructor
    · intro hle
      exact ⟨r, hlast, hle⟩
    · rintro ⟨r', hlast', hle⟩
      rw [hlast, Option.some_inj] at hlast'
      rwa [hlast']
  · intro now n hnow hcutoff key r hserved
    obtain ⟨hread, hfresh⟩ := (Cache.get_eq_some_iff _).mp hserved
    have hget : rows.get? key = some (.ofReport r) := by
      rw [hrow, hholds.lastPut?_of_get hread]
      rfl
    have hkept : kept.get? key = some (.ofReport r) := by
      rw [hpruned.get?_eq_some_iff, hcutoff]
      exact ⟨hget, le_scannedAt_of_isFresh hnow hfresh⟩
    refine (Cache.get_eq_some_iff _).mpr ⟨?_, hfresh⟩
    rw [Store.get_of_kept hbacking (hkept.trans hget.symm)]
    exact hread

theorem leap_second_before_1970_is_spared :
    let leap : HostReport := .observed "a.test" "mx.a.test" [.pass "starttls"]
      ⟨-1, 1000500000, by decide, by decide, by decide, by decide⟩
    let old : HostReport := .observed "b.test" "mx.b.test" [.fail "connectivity" "no route"]
      ⟨-2, 1, by decide, by decide, by decide, by decide⟩
    let ops : List Op := [.put "mx.a.test" leap, .put "mx.b.test" old, .reopen]
    let now : Instant := default
    now.nanos < 1000000000 ∧ (-1999 : Int) = now.nanoseconds / 1000000 - (1999 : Nat) ∧
      ∃ (opened s pruned : Store) (kept : Keyed Row), Place.new.openStore.1 = .ok opened ∧
        (opened.serveAll Store.reopen ops).1 = s ∧
        ((Cache.mk s (.ofMilliseconds 1999)).get "mx.a.test" now).2.1 = .ok (some leap) ∧
        s.onTable (·.prune (-1999)) = some (pruned, .ok 1) ∧
        pruned.backing = .durable ⟨some kept⟩ ∧ kept.get? "mx.b.test" = none ∧
        ((Cache.mk pruned (.ofMilliseconds 1999)).get "mx.a.test" now).2.1 = .ok (some leap) := by
  intro leap old ops now
  have hshallow : ∀ op ∈ ops, op.Shallow := by
    intro op hmem
    simp only [ops, List.mem_cons, List.not_mem_nil, or_false] at hmem
    rcases hmem with rfl | rfl | rfl
    · exact show leap.toJson.depth ≤ Json.nestingLimit by decide +kernel
    · exact show old.toJson.depth ≤ Json.nestingLimit by decide +kernel
    · trivial
  have hnow : now.nanos < 1000000000 := by decide
  have hcutoff : (-1999 : Int) = now.nanoseconds / 1000000 - (1999 : Nat) := by decide
  obtain ⟨opened, rows, hopened, hbacking, hrow, hprunes⟩ := pruning_spares_what_is_fresh ops
  obtain rfl : ({ backing := .durable .empty } : Store) = opened := Except.ok.inj hopened
  have hempty : ({ backing := .durable .empty } : Store).Holds .table [] :=
    ⟨rfl, fun _ => rfl, fun _ => rfl, fun _ => rfl⟩
  have hread :
      ((({ backing := .durable .empty } : Store).serveAll Store.reopen ops).1.get "mx.a.test").2 =
      .ok (some leap) :=
        (hempty.serveAll Store.keeps_reopen nofun ops).get nofun hshallow "mx.a.test"
  have hfresh : Cache.isFresh (.ofMilliseconds 1999) now leap = true := by decide
  obtain ⟨kept, removed, pruned, hprune, hpruned, hkept, hremoved, hspared⟩ := hprunes (-1999)
  have hgone : kept.get? "mx.b.test" = none := by
    rw [Option.eq_none_iff_forall_ne_some]
    intro row hget
    obtain ⟨-, r, hlast, hle⟩ := (hkept _ _).mp hget
    cases hlast
    revert hle
    decide
  have hstays : kept.get? "mx.a.test" = some (.ofReport leap) := by
    rw [hkept, hrow]
    exact ⟨rfl, leap, rfl, by decide⟩
  have hkeys : rows.keys = ["mx.a.test", "mx.b.test"] := by
    cases hbacking
    rfl
  obtain rfl : removed = 1 := by
    rw [hremoved, hkeys, List.countP_cons, List.countP_cons, List.countP_nil, hstays, hgone]
    rfl
  refine ⟨hnow, hcutoff, _, _, pruned, kept, hopened, rfl, ?_, hprune, hpruned, hgone,
    hspared now 1999 hnow hcutoff "mx.a.test" leap ?_⟩
  · exact (Cache.get_eq_some_iff _).mpr ⟨hread, hfresh⟩
  · exact (Cache.get_eq_some_iff _).mpr ⟨hread, hfresh⟩

end MailAudit.Scans
