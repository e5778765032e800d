import MailAudit.Proofs.Keyed
import MailAudit.Proofs.Report.Decoding
import MailAudit.Proofs.Report.Untimed
import MailAudit.Scans.Cache

namespace MailAudit.Scans

namespace Backing

inductive Kind where
  | memory
  | table
  | missing
  deriving DecidableEq

inductive Entry where
  | report (r : HostReport)
  | row (row : Row)

def kind : Backing → Kind
  | .memory _ => .memory
  | .durable ⟨some _⟩ => .table
  | .durable ⟨none⟩ => .missing

def stored? : Backing → String → Option Entry
  | .memory scans, key => (scans.get? key).map .report
  | .durable ⟨some rows⟩, key => (rows.get? key).map .row
  | .durable ⟨none⟩, _ => none

namespace Kind

def entryOf : Kind → HostReport → Entry
  | memory, r => .report r
  | _, r => .row (.ofReport r)

def read : Kind → Option Entry → Except StoreError (Option HostReport)
  | missing, _ => .error Table.missing
  | _, none => .ok none
  | _, some (.report r) => .ok (some r)
  | _, some (.row row) => some <$> row.report?

end Kind

variable {b b' : Backing} {key k : String} {r r' : HostReport}

theorem get_eq_read (b : Backing) (key : String) : b.get key = b.kind.read (b.stored? key) := by
  cases b with
  | memory scans =>
      simp only [get, kind, stored?]
      cases scans.get? key <;> rfl
  | durable t =>
      obtain ⟨rows⟩ := t
      cases rows with
      | none => rfl
      | some rows =>
          simp only [get, kind, stored?, Table.get, Table.withRows, bind, Except.bind]
          cases rows.get? key <;> rfl

theorem get_of_row {rows : Keyed Row} {row : Row} (h : rows.get? key = some row) :
    (durable ⟨some rows⟩).get key = some <$> row.report? := by
  have hstored : (durable ⟨some rows⟩).stored? key = some (.row row) := by
    rw [stored?, h]
    rfl
  rw [get_eq_read, hstored]
  rfl

theorem put_of_missing (h : b.kind = .missing) (key : String) (r : HostReport) :
    b.put key r = .error Table.missing := by
  cases b with
  | memory scans => cases h
  | durable t =>
      obtain ⟨rows⟩ := t
      cases rows with
      | none => rfl
      | some rows => cases h

theorem exists_put (h : b.kind ≠ .missing) (key : String) (r : HostReport) :
    ∃ b', b.put key r = .ok b' ∧ b'.kind = b.kind ∧
      ∀ k, b'.stored? k = if k = key then some (b.kind.entryOf r) else b.stored? k := by
  cases b with
  | memory scans =>
      refine ⟨.memory (scans.insert key r), rfl, rfl, fun k => ?_⟩
      simp only [stored?, Keyed.get?_insert]
      split <;> rfl
  | durable t =>
      obtain ⟨rows⟩ := t
      cases rows with
      | none => exact absurd rfl h
      | some rows =>
          refine ⟨.durable ⟨some (rows.insert key (.ofReport r))⟩, rfl, rfl, fun k => ?_⟩
          simp only [stored?, Keyed.get?_insert]
          split <;> rfl

theorem stored?_put (h : b.put key r = .ok b') (k : String) :
    b'.kind = b.kind ∧ b'.stored? k = if k = key then some (b.kind.entryOf r) else b.stored? k := by
  have hkind : b.kind ≠ .missing := by
    intro hmissing
    rw [put_of_missing hmissing] at h
    cases h
  obtain ⟨b'', hput, hkind', hentry⟩ := exists_put hkind key r
  rw [hput] at h
  cases h
  exact ⟨hkind', hentry k⟩

theorem checks_of_read_entryOf {kind : Kind}
    (h : kind.read (some (kind.entryOf r)) = .ok (some r')) :
    r'.checks = r.checks := by
  cases kind with
  | memory =>
      cases h
      rfl
  | table =>
      simp only [Kind.read, Kind.entryOf, Row.report?, Row.ofReport] at h
      split at h
      · rename_i read hread
        cases h
        exact HostReport.checks_of_read?_print hread
      · cases h
  | missing => cases h

theorem checks_of_get_put (h : b.put key r = .ok b') (hget : b'.get k = .ok (some r')) :
    k = key ∧ r'.checks = r.checks ∨ b.get k = .ok (some r') := by
  obtain ⟨hkind, hentry⟩ := stored?_put h k
  rw [get_eq_read, hkind, hentry] at hget
  by_cases hk : k = key
  · rw [if_pos hk] at hget
    exact Or.inl ⟨hk, checks_of_read_entryOf hget⟩
  · rw [if_neg hk] at hget
    exact Or.inr ((get_eq_read b k).trans hget)

def Alike (x y : Option Entry) : Prop :=
  x = y ∨ ∃ kind r r', x = some (Kind.entryOf kind r) ∧ y = some (Kind.entryOf kind r') ∧
    r.untimed = r'.untimed

def SameButTimes (b b' : Backing) : Prop :=
  b.kind = b'.kind ∧ ∀ key, Alike (b.stored? key) (b'.stored? key)

end Backing

namespace Store

theorem backing_put (s : Store) (key : String) (r : HostReport) :
    (s.put key r).1.backing = s.backing ∨
      s.backing.put key r = .ok (s.put key r).1.backing := by
  simp only [put]
  split
  · exact Or.inl rfl
  · split
    · rename_i b hb
      exact Or.inr hb
    · exact Or.inl rfl

def takes (s : Store) (n : Nat) : Bool := (s.writeRefusal n).isNone && s.backing.kind != .missing

theorem put_frame (s : Store) (key : String) (r : HostReport) :
    (s.put key r).1.readRefusal = s.readRefusal ∧ (s.put key r).1.writeRefusal = s.writeRefusal ∧
      (s.put key r).1.reads = s.reads ∧ (s.put key r).1.writes = s.writes + 1 ∧
      (s.put key r).1.backing.kind = s.backing.kind := by
  have hcounts : (s.put key r).1.readRefusal = s.readRefusal ∧
      (s.put key r).1.writeRefusal = s.writeRefusal ∧ (s.put key r).1.reads = s.reads ∧
      (s.put key r).1.writes = s.writes + 1 := by
    simp only [put]
    split
    · exact ⟨rfl, rfl, rfl, rfl⟩
    · split <;> exact ⟨rfl, rfl, rfl, rfl⟩
  refine ⟨hcounts.1, hcounts.2.1, hcounts.2.2.1, hcounts.2.2.2, ?_⟩
  rcases s.backing_put key r with hsame | hput
  · rw [hsame]
  · exact (Backing.stored?_put hput key).1

theorem takes_put (s : Store) (key : String) (r : HostReport) :
    (s.put key r).1.takes = s.takes := by
  obtain ⟨-, hwrites, -, -, hkind⟩ := s.put_frame key r
  funext n
  rw [takes, takes, hwrites, hkind]

theorem stored?_put_of_ne (s : Store) {key k : String} (hne : k ≠ key) (r : HostReport) :
    (s.put key r).1.backing.stored? k = s.backing.stored? k := by
  rcases s.backing_put key r with hsame | hput
  · rw [hsame]
  · rw [(Backing.stored?_put hput k).2, if_neg hne]

theorem put_of_takes {s : Store} (h : s.takes s.writes = true) (key : String) (r : HostReport) :
    (s.put key r).2 = .ok () ∧ ∀ k, (s.put key r).1.backing.stored? k =
      if k = key then some (s.backing.kind.entryOf r) else s.backing.stored? k := by
  simp only [takes, Bool.and_eq_true, Option.isNone_iff_eq_none, bne_iff_ne] at h
  obtain ⟨b, hput, -, hstored⟩ := Backing.exists_put h.2 key r
  have hboth : s.put key r = ({ s with writes := s.writes + 1, backing := b }, .ok ()) := by
    simp only [put, h.1, hput]
  rw [hboth]
  exact ⟨rfl, hstored⟩

theorem put_of_not_takes {s : Store} (h : s.takes s.writes = false) (key : String)
    (r : HostReport) :
    (∃ e, (s.put key r).2 = .error e) ∧ (s.put key r).1.backing = s.backing := by
  simp only [put]
  split
  · rename_i e _
    exact ⟨⟨e, rfl⟩, rfl⟩
  · rename_i hnone
    have hmissing : s.backing.kind = .missing := by simpa [takes, hnone] using h
    rw [Backing.put_of_missing hmissing]
    exact ⟨⟨_, rfl⟩, rfl⟩

end Store

end MailAudit.Scans
