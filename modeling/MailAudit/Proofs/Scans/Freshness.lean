import MailAudit.Proofs.Scans.Durable
import MailAudit.Proofs.Scans.Expiry

namespace MailAudit

namespace Instant

theorem nanoseconds_sub_le_longestExpiry (t u : Instant) :
    t.nanoseconds - u.nanoseconds ≤ Scans.Cache.longestExpiry := by
  have hspan : (lastSecond - firstSecond + 2) * 1000000000 ≤ (Scans.Cache.longestExpiry : Int) := by
    decide +kernel
  have hlast := t.le_last
  have hfirst := u.first_le
  have hnanos := t.nanos_lt
  simp only [nanoseconds]
  omega

end Instant

namespace Scans

namespace Cache

theorem expired_iff {expiry : Duration} {now t : Instant} :
    Expired expiry now t ↔ (expiry.nanoseconds : Int) < now.nanoseconds - t.nanoseconds := by
  have hspan := now.nanoseconds_sub_le_longestExpiry t
  rw [Expired]
  omega

theorem isFresh_eq_true_iff {expiry : Duration} {now : Instant} {r : HostReport}
    (hnow : now.nanos < 1000000000) (hr : r.observedAt.nanos < 1000000000) :
    isFresh expiry now r = true ↔
    now.nanoseconds - r.observedAt.nanoseconds ≤ expiry.nanoseconds := by
  rw [isFresh_iff hnow hr, expired_iff, not_lt]

inductive Visit where
  | put (key : String) (r : HostReport)
  | get (key : String) (now : Instant)

namespace Visit

def op : Visit → Op
  | put key r => .put key r
  | get key _ => .get key

def NoLeap : Visit → Prop
  | put _ r => r.observedAt.nanos < 1000000000
  | get _ now => now.nanos < 1000000000

end Visit

def lastPut? (past : List Visit) (key : String) : Option HostReport :=
  Op.lastPut? (past.map Visit.op) key

def visit (c : Cache) : Visit → Cache
  | .put key r => (c.put key r).1
  | .get key now => (c.get key now).1

def visitAll (c : Cache) (visits : List Visit) : Cache := visits.foldl visit c

def inMemory (expiry : Duration) : Cache := ⟨.inMemory, expiry⟩

variable {c : Cache} {expiry : Duration} {past : List Visit} {key : String} {now : Instant}
  {r : HostReport}

theorem noLeap_of_lastPut? (hpast : ∀ v ∈ past, v.NoLeap) (h : lastPut? past key = some r) :
    r.observedAt.nanos < 1000000000 := by
  obtain ⟨v, hmem, hop⟩ := List.mem_map.mp (Op.mem_of_lastPut? h)
  cases v with
  | put k r' =>
      cases hop
      exact hpast _ hmem
  | get k t => cases hop

structure Follows (c : Cache) (expiry : Duration) (past : List Visit) : Prop where
  holds : c.store.Holds .memory (past.map Visit.op)
  expiry_eq : c.expiry = expiry

theorem get_fst (c : Cache) (key : String) (now : Instant) :
    (c.get key now).1 = { c with store := (c.store.get key).1 } := by
  simp only [get]
  split
  · split <;> rfl
  · rfl

theorem Follows.visit (h : c.Follows expiry past) (v : Visit) :
    (c.visit v).Follows expiry (past ++ [v]) := by
  obtain ⟨hholds, hexpiry⟩ := h
  cases v with
  | put key r =>
      refine ⟨?_, hexpiry⟩
      rw [List.map_append]
      exact (hholds.put nofun key r).1
  | get key now =>
      rw [Cache.visit, get_fst]
      refine ⟨?_, hexpiry⟩
      rw [List.map_append]
      -- The read only adds to the count of reads.
      have hread : (c.store.get key).1.Holds .memory (past.map Visit.op) :=
        ⟨hholds.ofKind, hholds.reads, hholds.writes, hholds.stored⟩
      exact hread.of_no_put fun _ => rfl

theorem Follows.visitAll (h : c.Follows expiry past) (visits : List Visit) :
    (c.visitAll visits).Follows expiry (past ++ visits) := by
  induction visits generalizing c past with
  | nil => rwa [List.append_nil]
  | cons v rest ih =>
      have hrest := ih (h.visit v)
      rwa [List.append_assoc, List.singleton_append] at hrest

theorem follows_inMemory (expiry : Duration) (visits : List Visit) :
    ((inMemory expiry).visitAll visits).Follows expiry visits := by
  have hempty : (inMemory expiry).Follows expiry [] :=
    ⟨⟨rfl, fun _ => rfl, fun _ => rfl, fun _ => rfl⟩, rfl⟩
  exact hempty.visitAll visits

theorem Follows.backing_get (h : c.Follows expiry past) (key : String) :
    c.store.backing.get key = .ok (lastPut? past key) := by
  rw [Backing.get_eq_read, h.holds.ofKind, h.holds.stored, lastPut?]
  cases Op.lastPut? (past.map Visit.op) key <;> rfl

theorem Follows.get_eq (h : c.Follows expiry past) (key : String) (now : Instant) :
    (c.get key now).2.1 = .ok ((lastPut? past key).filter (isFresh expiry now)) := by
  have hread : (c.store.get key).2 = .ok (lastPut? past key) := by
    rw [Store.get, h.holds.reads]
    exact h.backing_get key
  simp only [get, hread, h.expiry_eq]
  cases lastPut? past key with
  | none => rfl
  | some r => cases hfresh : isFresh expiry now r <;> simp [Option.filter, hfresh]

theorem Follows.get_eq_some_iff (h : c.Follows expiry past) (hpast : ∀ v ∈ past, v.NoLeap)
    (hnow : now.nanos < 1000000000) :
    (c.get key now).2.1 = .ok (some r) ↔ lastPut? past key = some r ∧
      now.nanoseconds - r.observedAt.nanoseconds ≤ expiry.nanoseconds := by
  rw [h.get_eq, Except.ok.injEq, Option.filter_eq_some_iff]
  refine and_congr_right fun hlast => ?_
  exact isFresh_eq_true_iff hnow (noLeap_of_lastPut? hpast hlast)

theorem Follows.get_eq_none_iff (h : c.Follows expiry past) (hpast : ∀ v ∈ past, v.NoLeap)
    (hnow : now.nanos < 1000000000) :
    (c.get key now).2.1 = .ok none ↔ ∀ r, lastPut? past key = some r →
      (expiry.nanoseconds : Int) < now.nanoseconds - r.observedAt.nanoseconds := by
  rw [h.get_eq, Except.ok.injEq, Option.filter_eq_none_iff]
  refine forall₂_congr fun r hlast => ?_
  rw [isFresh_eq_true_iff hnow (noLeap_of_lastPut? hpast hlast), not_le]

theorem Follows.get_eq_of_long (h : c.Follows expiry past)
    (hlong : longestExpiry < expiry.nanoseconds) :
    (c.get key now).2.1 = .ok (lastPut? past key) := by
  have hfresh (r : HostReport) : isFresh expiry now r = true := by
    rw [isFresh, Bool.or_eq_true]
    exact .inl (decide_eq_true hlong)
  rw [h.get_eq]
  cases lastPut? past key with
  | none => rfl
  | some r => rw [Option.filter_some, if_pos (hfresh r)]

/-- After any puts and gets, a get hands out the report last put under its key as long as that is
not older than the expiry, and nothing otherwise. It leaves what is stored as it is, and what it
hands out it would hand out at any earlier time and with any longer expiry. -/
theorem last_report_is_found_while_fresh (expiry : Duration) (past : List Visit)
    (hpast : ∀ v ∈ past, v.NoLeap) (key : String) (now : Instant) (hnow : now.nanos < 1000000000) :
    let c := (inMemory expiry).visitAll past
    let found := (c.get key now).2.1
    (∀ r, found = .ok (some r) ↔ lastPut? past key = some r ∧
        now.nanoseconds - r.observedAt.nanoseconds ≤ expiry.nanoseconds) ∧
      (found = .ok none ↔ ∀ r, lastPut? past key = some r →
        (expiry.nanoseconds : Int) < now.nanoseconds - r.observedAt.nanoseconds) ∧
      (9223372036854775807 * 1000000 < expiry.nanoseconds → found = .ok (lastPut? past key)) ∧
      (c.get key now).1.store.backing = c.store.backing ∧
      (∀ k, c.store.backing.get k = .ok (lastPut? past k)) ∧
      ∀ r now' (expiry' : Duration), found = .ok (some r) → now'.nanos < 1000000000 →
        now'.nanoseconds ≤ now.nanoseconds → expiry.nanoseconds ≤ expiry'.nanoseconds →
          (((inMemory expiry').visitAll past).get key now').2.1 = .ok (some r) := by
  intro c found
  have hfollows : c.Follows expiry past := follows_inMemory expiry past
  have hsome (r : HostReport) : found = .ok (some r) ↔ lastPut? past key = some r ∧
      now.nanoseconds - r.observedAt.nanoseconds ≤ expiry.nanoseconds :=
    hfollows.get_eq_some_iff hpast hnow
  refine ⟨hsome, hfollows.get_eq_none_iff hpast hnow, hfollows.get_eq_of_long, ?_,
    hfollows.backing_get, ?_⟩
  · rw [get_fst]
    rfl
  · intro r now' expiry' hr hnow' hearlier hlonger
    obtain ⟨hlast, hage⟩ := (hsome r).mp hr
    refine ((follows_inMemory expiry' past).get_eq_some_iff hpast hnow').mpr ⟨hlast, ?_⟩
    omega

theorem report_is_found_to_the_nanosecond :
    let later : HostReport := .observed "a.test" "mx.a.test" [.pass "starttls"]
      ⟨10, 0, by decide, by decide, by decide, by decide⟩
    let earlier : HostReport := .observed "b.test" "mx.a.test" [.fail "connectivity" "no route"]
      ⟨-1, 999999999, by decide, by decide, by decide, by decide⟩
    let past : List Visit :=
      [.put "mx.a.test" later, .get "mx.a.test" later.observedAt, .put "mx.a.test" earlier]
    let next : Instant := ⟨0, 1, by decide, by decide, by decide, by decide⟩
    let c := (inMemory ⟨1⟩).visitAll past
    (∀ v ∈ past, v.NoLeap) ∧ (c.get "mx.a.test" default).2.1 = .ok (some earlier) ∧
      (c.get "mx.a.test" next).2.1 = .ok none ∧
        c.store.backing.get "mx.a.test" = .ok (some earlier) := by
  intro later earlier past next c
  have hlast : lastPut? past "mx.a.test" = some earlier := rfl
  have hpast : ∀ v ∈ past, v.NoLeap := by
    intro v hmem
    simp only [past, List.mem_cons, List.not_mem_nil, or_false] at hmem
    rcases hmem with rfl | rfl | rfl
    · exact show (0 : Nat) < 1000000000 by decide
    · exact show (0 : Nat) < 1000000000 by decide
    · exact show (999999999 : Nat) < 1000000000 by decide
  obtain ⟨hsome, -, -, -, hstored, -⟩ :=
    last_report_is_found_while_fresh ⟨1⟩ past hpast "mx.a.test" default (by decide)
  obtain ⟨-, hnone, -⟩ :=
    last_report_is_found_while_fresh ⟨1⟩ past hpast "mx.a.test" next (by decide)
  refine ⟨hpast, (hsome earlier).mpr ⟨hlast, by decide⟩,
    hnone.mpr fun r hr => ?_, (hstored _).trans (by rw [hlast])⟩
  cases hlast.symm.trans hr
  decide

end Cache

end Scans

end MailAudit
