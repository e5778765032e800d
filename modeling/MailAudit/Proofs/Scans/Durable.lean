import MailAudit.Proofs.Scans.Store
import MailAudit.Proofs.Time.Instant
import MailAudit.Scans.Database

namespace MailAudit

namespace Scans

inductive Op where
  | put (key : String) (r : HostReport)
  | get (key : String)
  | reopen

inductive Answer where
  | done
  | found (r : Option HostReport)
  | refused (e : StoreError)

namespace Op

def put? (key : String) : Op → Option HostReport
  | put k r => if key = k then some r else none
  | _ => none

def Shallow : Op → Prop
  | put _ r => r.toJson.depth ≤ Json.nestingLimit
  | _ => True

def lastPut? (ops : List Op) (key : String) : Option HostReport := ops.reverse.findSome? (put? key)

variable {past : List Op} {key : String} {r : HostReport}

theorem put?_eq_some_iff {op : Op} : op.put? key = some r ↔ op = put key r := by
  cases op with
  | put k r' =>
      rw [put?]
      by_cases h : key = k
      · subst h
        rw [if_pos rfl, Option.some_inj]
        constructor
        · rintro rfl
          rfl
        · intro heq
          cases heq
          rfl
      · rw [if_neg h]
        refine iff_of_false nofun fun heq => ?_
        cases heq
        exact h rfl
  | get k => exact iff_of_false nofun nofun
  | reopen => exact iff_of_false nofun nofun

theorem lastPut?_append_put (past : List Op) (k : String) (r : HostReport) (key : String) :
    lastPut? (past ++ [put k r]) key = if key = k then some r else lastPut? past key := by
  rw [lastPut?, List.reverse_concat, List.findSome?_cons, put?]
  by_cases h : key = k
  · rw [if_pos h, if_pos h]
  · rw [if_neg h, if_neg h]
    rfl

theorem lastPut?_append_of_none {op : Op} (h : ∀ key, op.put? key = none) (key : String) :
    lastPut? (past ++ [op]) key = lastPut? past key := by
  rw [lastPut?, List.reverse_concat, List.findSome?_cons, h key]
  rfl

theorem mem_of_lastPut? (h : lastPut? past key = some r) : put key r ∈ past := by
  obtain ⟨op, hmem, hput⟩ := List.exists_of_findSome?_eq_some h
  rw [put?_eq_some_iff] at hput
  rw [← hput]
  exact List.mem_reverse.mp hmem

theorem isSome_lastPut?_iff : (∃ r, lastPut? past key = some r) ↔ ∃ r, put key r ∈ past := by
  constructor
  · rintro ⟨r, hlast⟩
    exact ⟨r, mem_of_lastPut? hlast⟩
  · rintro ⟨r, hmem⟩
    rw [← Option.isSome_iff_exists, lastPut?, List.findSome?_isSome_iff]
    refine ⟨put key r, List.mem_reverse.mpr hmem, ?_⟩
    rw [put?_eq_some_iff.mpr rfl]
    rfl

end Op

namespace Answer

def ofWrite : Except StoreError Unit → Answer
  | .ok () => done
  | .error e => refused e

def ofRead : Except StoreError (Option HostReport) → Answer
  | .ok r => found r
  | .error e => refused e

def expected (past : List Op) : Op → Answer
  | .get key => found (Op.lastPut? past key)
  | _ => done

def expectedAll (past : List Op) : List Op → List Answer
  | [] => []
  | op :: rest => expected past op :: expectedAll (past ++ [op]) rest

theorem refused_notMem_expectedAll (e : StoreError) (past ops : List Op) :
    refused e ∉ expectedAll past ops := by
  induction ops generalizing past with
  | nil => exact List.not_mem_nil
  | cons op rest ih =>
      intro hmem
      rcases List.mem_cons.mp hmem with heq | hmem
      · cases op <;> cases heq
      · exact ih _ hmem

end Answer

namespace Backing.Kind

theorem read_entryOf {kind : Kind} (hkind : kind ≠ .missing) {r : HostReport}
    (hdepth : kind = .table → r.toJson.depth ≤ Json.nestingLimit) :
    kind.read (some (kind.entryOf r)) = .ok (some r) := by
  cases kind with
  | memory => rfl
  | table =>
      have hread := r.read?_print
      rw [if_pos (hdepth rfl)] at hread
      simp only [read, entryOf, Row.report?, Row.ofReport, hread]
      rfl
  | missing => exact absurd rfl hkind

end Backing.Kind

namespace Store

variable {s : Store} {kind : Backing.Kind} {past : List Op}
  {restart : Store → Except StoreError Store}

def serve (restart : Store → Except StoreError Store) (s : Store) : Op → Store × Answer
  | .put key r => ((s.put key r).1, .ofWrite (s.put key r).2)
  | .get key => ((s.get key).1, .ofRead (s.get key).2)
  | .reopen =>
      match restart s with
      | .ok s => (s, .done)
      | .error e => (s, .refused e)

def serveAll (restart : Store → Except StoreError Store) (s : Store) : List Op → Store × List Answer
  | [] => (s, [])
  | op :: rest =>
      let (s, answer) := s.serve restart op
      let (s, answers) := s.serveAll restart rest
      (s, answer :: answers)

structure Holds (s : Store) (kind : Backing.Kind) (past : List Op) : Prop where
  ofKind : s.backing.kind = kind
  reads : ∀ n, s.readRefusal n = none
  writes : ∀ n, s.writeRefusal n = none
  stored : ∀ key, s.backing.stored? key = (Op.lastPut? past key).map kind.entryOf

theorem Holds.of_no_put (h : s.Holds kind past) {op : Op} (hop : ∀ key, op.put? key = none) :
    s.Holds kind (past ++ [op]) := by
  refine ⟨h.ofKind, h.reads, h.writes, fun key => ?_⟩
  rw [Op.lastPut?_append_of_none hop]
  exact h.stored key

theorem Holds.put (h : s.Holds kind past) (hkind : kind ≠ .missing) (key : String)
    (r : HostReport) :
    (s.put key r).1.Holds kind (past ++ [.put key r]) ∧ (s.put key r).2 = .ok () := by
  have htakes : s.takes s.writes = true := by
    rw [takes, h.writes, h.ofKind, Bool.and_eq_true, bne_iff_ne]
    exact ⟨rfl, hkind⟩
  obtain ⟨hok, hstored⟩ := put_of_takes htakes key r
  obtain ⟨hreads, hwrites, -, -, hkept⟩ := s.put_frame key r
  refine ⟨⟨hkept.trans h.ofKind, hreads ▸ h.reads, hwrites ▸ h.writes, fun k => ?_⟩, hok⟩
  rw [hstored, h.ofKind, h.stored, Op.lastPut?_append_put]
  split <;> rfl

theorem Holds.get (h : s.Holds kind past) (hkind : kind ≠ .missing)
    (hshallow : ∀ op ∈ past, op.Shallow) (key : String) :
    (s.get key).2 = .ok (Op.lastPut? past key) := by
  rw [Store.get, h.reads, Backing.get_eq_read, h.ofKind, h.stored]
  cases hlast : Op.lastPut? past key with
  | none => cases kind <;> first | rfl | exact absurd rfl hkind
  | some r => exact Backing.Kind.read_entryOf hkind fun _ => hshallow _ (Op.mem_of_lastPut? hlast)

def Keeps (restart : Store → Except StoreError Store) (kind : Backing.Kind) : Prop :=
  ∀ s past, Holds s kind past → ∃ s', restart s = .ok s' ∧ s'.Holds kind past

theorem keeps_reopen : Keeps reopen .table := by
  intro s past h
  obtain ⟨backing, readRefusal, writeRefusal, reads, writes⟩ := s
  cases backing with
  | memory scans => exact nomatch h.ofKind
  | durable table =>
    exact ⟨{ backing := .durable table }, rfl, h.ofKind, fun _ => rfl, fun _ => rfl, h.stored⟩

theorem Holds.serve (h : s.Holds kind past) (hrestart : Keeps restart kind)
    (hkind : kind ≠ .missing) (op : Op) : (s.serve restart op).1.Holds kind (past ++ [op]) := by
  cases op with
  | put key r => exact (h.put hkind key r).1
  | get key =>
      have hread : (s.get key).1.Holds kind past := ⟨h.ofKind, h.reads, h.writes, h.stored⟩
      exact hread.of_no_put fun _ => rfl
  | reopen =>
      obtain ⟨s', hopened, hholds⟩ := hrestart s past h
      rw [Store.serve, hopened]
      exact hholds.of_no_put fun _ => rfl

theorem Holds.serveAll (h : s.Holds kind past) (hrestart : Keeps restart kind)
    (hkind : kind ≠ .missing) (ops : List Op) :
    (s.serveAll restart ops).1.Holds kind (past ++ ops) := by
  induction ops generalizing s past with
  | nil =>
      rw [List.append_nil]
      exact h
  | cons op rest ih =>
      have hrest := ih (h.serve hrestart hkind op)
      rwa [List.append_assoc, List.singleton_append] at hrest

theorem serve_expected (hrestart : Keeps restart kind) (hkind : kind ≠ .missing)
    (h : s.Holds kind past) (hshallow : ∀ op ∈ past, op.Shallow) (op : Op) :
    (s.serve restart op).2 = .expected past op := by
  cases op with
  | put key r =>
      rw [serve, (h.put hkind key r).2]
      rfl
  | get key =>
      rw [serve, h.get hkind hshallow]
      rfl
  | reopen =>
      obtain ⟨s', hopened, -⟩ := hrestart s past h
      rw [serve, hopened]
      rfl

-- Both kinds of store come to the same answers, those that are expected after what has been put so
-- far.
theorem serveAll_expected (hrestart : Keeps restart kind) (hkind : kind ≠ .missing) {ops : List Op}
    (h : s.Holds kind past) (hpast : ∀ op ∈ past, op.Shallow) (hops : ∀ op ∈ ops, op.Shallow) :
    (s.serveAll restart ops).2 = Answer.expectedAll past ops := by
  induction ops generalizing s past with
  | nil => rfl
  | cons op rest ih =>
      have hanswer := serve_expected hrestart hkind h hpast op
      have hpast' : ∀ op' ∈ past ++ [op], op'.Shallow := by
        intro op' hmem
        rcases List.mem_append.mp hmem with hmem | hmem
        · exact hpast op' hmem
        · rw [List.mem_singleton.mp hmem]
          exact hops op List.mem_cons_self
      have hanswers := ih (h.serve hrestart hkind op) hpast' fun op' hmem =>
        hops op' (List.mem_cons_of_mem op hmem)
      simp only [Store.serveAll, hanswer, hanswers]
      rfl

theorem serveAll_of_empty (hrestart : Keeps restart kind) (hkind : kind ≠ .missing)
    (h : s.Holds kind []) {ops : List Op} (hops : ∀ op ∈ ops, op.Shallow) :
    (s.serveAll restart ops).1.Holds kind ops ∧
    (s.serveAll restart ops).2 = Answer.expectedAll [] ops :=
  ⟨h.serveAll hrestart hkind ops,
    serveAll_expected hrestart hkind h (fun _ hmem => absurd hmem List.not_mem_nil) hops⟩

theorem Holds.exists_rows (h : s.Holds .table past) :
    ∃ rows, s.backing = .durable ⟨some rows⟩ ∧
      ∀ key, rows.get? key = (Op.lastPut? past key).map Row.ofReport := by
  obtain ⟨backing, readRefusal, writeRefusal, reads, writes⟩ := s
  rcases backing with scans | ⟨_ | rows⟩
  · exact nomatch h.ofKind
  · exact nomatch h.ofKind
  · refine ⟨rows, rfl, fun key => ?_⟩
    have hstored : (rows.get? key).map Backing.Entry.row = _ := h.stored key
    cases hget : rows.get? key <;> cases hlast : Op.lastPut? past key <;> rw
      [hget, hlast] at hstored <;>
      cases hstored <;> rfl

/-- One row for each key that was put, with the time of the report last put there, rounded down to
milliseconds. -/
structure Recorded (rows : Keyed Row) (ops : List Op) : Prop where
  once : rows.keys.Nodup
  keys : ∀ key, key ∈ rows.keys ↔ ∃ r, .put key r ∈ ops
  scannedAt : ∀ key row, rows.get? key = some row → ∃ r, Op.lastPut? ops key = some r ∧
    row.scannedAt * 1000000 ≤ r.observedAt.nanoseconds ∧
    r.observedAt.nanoseconds < (row.scannedAt + 1) * 1000000

theorem Holds.recorded (h : s.Holds .table past) :
    ∃ rows, s.backing = .durable ⟨some rows⟩ ∧ Recorded rows past := by
  obtain ⟨rows, hbacking, hrow⟩ := h.exists_rows
  refine ⟨rows, hbacking, rows.nodup_keys, fun key => ?_, fun key row hget => ?_⟩
  · rw [Keyed.mem_keys_iff, ← Op.isSome_lastPut?_iff, ← Option.isSome_iff_exists, hrow,
      Option.isSome_map, Option.isSome_iff_exists]
  · rw [hrow] at hget
    obtain ⟨r, hlast, rfl⟩ := Option.map_eq_some_iff.mp hget
    exact ⟨r, hlast, r.observedAt.milliseconds_rounds_down⟩

/-- A store in a new file answers every operation as one in memory does to which the same is put and
which is never closed, and nothing is refused. -/
theorem durable_answers_as_memory (ops : List Op) (hshallow : ∀ op ∈ ops, op.Shallow) :
    ∃ opened, Place.new.openStore.1 = .ok opened ∧
      (opened.serveAll reopen ops).2 = (inMemory.serveAll .ok ops).2 ∧
      (∀ e, .refused e ∉ (opened.serveAll reopen ops).2) ∧
      ∀ n, ∃ rows, (opened.serveAll reopen (ops.take n)).1.backing = .durable ⟨some rows⟩ ∧
        Recorded rows (ops.take n) := by
  let opened : Store := { backing := .durable .empty }
  have hopened : opened.Holds .table [] := ⟨rfl, fun _ => rfl, fun _ => rfl, fun _ => rfl⟩
  have hmemory : inMemory.Holds .memory [] := ⟨rfl, fun _ => rfl, fun _ => rfl, fun _ => rfl⟩
  have hstays : Keeps .ok .memory := fun s past h => ⟨s, rfl, h⟩
  obtain ⟨-, hdurable⟩ := serveAll_of_empty keeps_reopen nofun hopened hshallow
  obtain ⟨-, hanswers⟩ := serveAll_of_empty hstays nofun hmemory hshallow
  refine ⟨opened, rfl, hdurable.trans hanswers.symm, fun e => ?_, fun n => ?_⟩
  · rw [hdurable]
    exact Answer.refused_notMem_expectedAll e [] ops
  · have htake : ∀ op ∈ ops.take n, op.Shallow :=
      fun op hmem => hshallow op (List.mem_of_mem_take hmem)
    exact (serveAll_of_empty keeps_reopen nofun hopened htake).1.recorded

theorem overwritten_report_outlives_its_store :
    let later : HostReport := .observed "a.test" "mx.a.test" [.pass "starttls"] default
    let earlier : HostReport := .observed "b.test" "mx.a.test" [.fail "connectivity" "no \"route\""]
      ⟨-1, 999999999, by decide, by decide, by decide, by decide⟩
    let ops : List Op :=
      [.put "mx.a.test" later, .put "mx.a.test" earlier, .reopen, .get "mx.a.test",
        .get "mx.b.test"]
    earlier.observedAt.nanoseconds = -1 ∧ (∀ op ∈ ops, op.Shallow) ∧
      ∃ opened rows, Place.new.openStore.1 = .ok opened ∧
        (opened.serveAll reopen ops).2 = [.done, .done, .done, .found (some earlier), .found none] ∧
        (opened.serveAll reopen ops).1.backing = .durable ⟨some rows⟩ ∧ Recorded rows ops := by
  intro later earlier ops
  have hlater : later.toJson.depth ≤ Json.nestingLimit := by decide +kernel
  have hearlier : earlier.toJson.depth ≤ Json.nestingLimit := by decide +kernel
  have hshallow : ∀ op ∈ ops, op.Shallow := by
    intro op hmem
    simp only [ops, List.mem_cons, List.not_mem_nil, or_false] at hmem
    rcases hmem with rfl | rfl | rfl | rfl | rfl
    · exact hlater
    · exact hearlier
    all_goals trivial
  obtain ⟨opened, hopened, hanswers, -, hrows⟩ := durable_answers_as_memory ops hshallow
  obtain ⟨rows, hbacking, hrecorded⟩ := hrows ops.length
  rw [List.take_length] at hbacking hrecorded
  exact ⟨rfl, hshallow, opened, rows, hopened, hanswers.trans rfl, hbacking, hrecorded⟩

end Store

end Scans

end MailAudit
