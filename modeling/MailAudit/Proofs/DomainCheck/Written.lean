import MailAudit.Proofs.DomainCheck.Outset

namespace MailAudit.DomainCheck

variable {s : Services} {o : Outset}

/-- Either all writes are refused or none. -/
def RefusesAlike (w : World) : Prop :=
  ∀ cache, w.cache = some cache → ∀ n n', cache.store.writeRefusal n = cache.store.writeRefusal n'

theorem Outset.takes_eq (h : RefusesAlike o.world) (n : Nat) : o.takes n = o.takes 0 := by
  cases hcache : o.world.cache with
  | none => simp [takes, hcache]
  | some cache =>
      simp [takes, hcache, Scans.Store.takes,
        h cache hcache (cache.store.writes + n) cache.store.writes]

/-- The stored scans once some hosts have been dealt with. Those of hosts that were probed are new,
if writes go through at all. -/
structure Written (s : Services) (o : Outset) (hosts : List String)
    (before after : Scans.Backing) : Prop where
  kind : after.kind = before.kind
  same : ∀ key, key ∉ hosts ∨ o.reused key ≠ none → after.stored? key = before.stored? key
  kept : RefusesAlike o.world → o.takes 0 = true → ∀ key ∈ hosts, o.reused key = none →
    ∃ r, after.stored? key = some (before.kind.entryOf r) ∧ r.untimed = o.due s key
  refused : RefusesAlike o.world → o.takes 0 = false → ∀ key, after.stored? key = before.stored? key

theorem Written.refl (s : Services) (o : Outset) (b : Scans.Backing) : Written s o [] b b where
  kind := rfl
  same _ _ := rfl
  kept _ _ _ hkey := (List.not_mem_nil hkey).elim
  refused _ _ _ := rfl

theorem Written.congr {hosts hosts' : List String} {before after : Scans.Backing}
    (h : Written s o hosts before after)
    (hmem : ∀ key, o.reused key = none → (key ∈ hosts ↔ key ∈ hosts')) :
    Written s o hosts' before after where
  kind := h.kind
  same key hkey := by
    cases hreused : o.reused key with
    | some r => exact h.same key (Or.inr (by simp [hreused]))
    | none => exact h.same key (hkey.imp_left fun hnot hold => hnot ((hmem key hreused).mp hold))
  kept halike htakes key hkey hnone := h.kept halike htakes key ((hmem key hnone).mpr hkey) hnone
  refused := h.refused

theorem Written.put {hostname : String} {hosts : List String} {before : Scans.Backing}
    {store : Scans.Store} (h : Written s o hosts before store.backing)
    (htakes : store.takes store.writes = o.takes (o.written hosts)) {r : HostReport}
    (hr : r.untimed = o.due s hostname) (hprobed : o.reused hostname = none) :
    Written s o (hostname :: hosts) before (store.put hostname r).1.backing where
  kind := (store.put_frame hostname r).2.2.2.2.trans h.kind
  same key hkey := by
    have hne : key ≠ hostname := by
      rintro rfl
      rcases hkey with hkey | hkey
      · exact hkey List.mem_cons_self
      · exact hkey hprobed
    rw [store.stored?_put_of_ne hne]
    exact h.same key (hkey.imp_left fun hnew hmem => hnew (List.mem_cons_of_mem _ hmem))
  kept halike hall key hkey hnone := by
    rw [Outset.takes_eq halike, hall] at htakes
    have hstored := (Scans.Store.put_of_takes htakes hostname r).2 key
    rw [h.kind] at hstored
    by_cases heq : key = hostname
    · rw [if_pos heq] at hstored
      exact ⟨r, hstored, heq ▸ hr⟩
    · rw [if_neg heq] at hstored
      obtain ⟨r', hold, hdue⟩ :=
        h.kept halike hall key ((List.mem_cons.mp hkey).resolve_left heq) hnone
      exact ⟨r', hstored.trans hold, hdue⟩
  refused halike hall key := by
    rw [Outset.takes_eq halike, hall] at htakes
    rw [(Scans.Store.put_of_not_takes htakes hostname r).2]
    exact h.refused halike hall key

theorem Written.sameButTimes {hosts : List String} {before after after' : Scans.Backing}
    (halike : RefusesAlike o.world) (h : Written s o hosts before after)
    (h' : Written s o hosts before after') : after.SameButTimes after' := by
  refine ⟨h.kind.trans h'.kind.symm, fun key => ?_⟩
  cases htakes : o.takes 0 with
  | false =>
      exact Or.inl ((h.refused halike htakes key).trans (h'.refused halike htakes key).symm)
  | true =>
      by_cases hnew : key ∈ hosts ∧ o.reused key = none
      · obtain ⟨r, hstored, hdue⟩ := h.kept halike htakes key hnew.1 hnew.2
        obtain ⟨r', hstored', hdue'⟩ := h'.kept halike htakes key hnew.1 hnew.2
        exact Or.inr ⟨_, r, r', hstored, hstored', hdue.trans hdue'.symm⟩
      · have hold := not_and_or.mp hnew
        exact Or.inl ((h.same key hold).trans (h'.same key hold).symm)

end MailAudit.DomainCheck
