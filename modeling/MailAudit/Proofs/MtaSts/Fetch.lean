import MailAudit.MtaSts.Fetch
import MailAudit.Proofs.Text.Utf8
import Mathlib.Logic.Basic

namespace MailAudit.MtaSts.Fetched

open Text

variable {r : Http.Response} {body : String} {fetched : Fetched} {bytes : List UInt8}
  {e : FetchError}

structure HandsOut (r : Http.Response) (body : String) : Prop where
  status_eq : r.status = 200
  declared_le : ∀ n ∈ r.declaredLength, n ≤ 65536
  whole_eq : r.whole = true
  length_le : r.chunks.flatten.length ≤ 65536
  encoded : r.chunks.flatten = Utf8.encode body

-- The chunks that came before stay within the limit, so that only the last sum can exceed it.
theorem collect_eq {read : List UInt8} (hread : read.length ≤ maxBytes)
    (chunks : List (List UInt8)) :
    collect read chunks =
      if maxBytes < (read ++ chunks.flatten).length then .error .tooLarge
        else .ok (read ++ chunks.flatten) := by
  induction chunks generalizing read with
  | nil => rw [collect, List.flatten_nil, List.append_nil, if_neg (Nat.not_lt.mpr hread)]
  | cons chunk chunks ih =>
    rw [collect, ← List.length_append, List.flatten_cons, ← List.append_assoc]
    split
    · rename_i hlong
      have hlonger : maxBytes < (read ++ chunk ++ chunks.flatten).length := by
        rw [List.length_append]
        exact Nat.lt_add_right _ hlong
      rw [if_pos hlonger]
    · rename_i hfits
      exact ih (Nat.le_of_not_lt hfits)

theorem collect_congr {chunks chunks' : List (List UInt8)} (h : chunks.flatten = chunks'.flatten) :
    collect [] chunks = collect [] chunks' := by
  rw [collect_eq (Nat.zero_le _), collect_eq (Nat.zero_le _), h]

theorem collect_eq_ok_iff {chunks : List (List UInt8)} :
    collect [] chunks = .ok bytes ↔ chunks.flatten.length ≤ 65536 ∧ chunks.flatten = bytes := by
  rw [collect_eq (Nat.zero_le _), List.nil_append]
  split
  · rename_i hlong
    exact ⟨nofun, fun h => absurd h.1 (Nat.not_le.mpr hlong)⟩
  · rename_i hfits
    rw [Except.ok.injEq]
    exact ⟨fun h => ⟨Nat.le_of_not_lt hfits, h⟩, fun h => h.2⟩

theorem declared_le_iff :
    (r.declaredLength.any fun n => maxBytes < n) = false ↔ ∀ n ∈ r.declaredLength, n ≤ 65536 := by
  cases r.declaredLength with
  | none => exact ⟨fun _ => nofun, fun _ => rfl⟩
  | some n =>
    rw [Option.any_some, decide_eq_false_iff_not, Nat.not_lt]
    exact ⟨fun hle m hm => Option.some.inj hm ▸ hle, fun h => h n rfl⟩

theorem ofResponse_eq_ok_iff :
    ofResponse r = .ok fetched ↔ HandsOut r fetched.body ∧ fetched.contentType = r.contentType := by
  constructor
  · intro h
    rw [ofResponse] at h
    split at h
    · cases h
    rename_i hstatus
    split at h
    · cases h
    rename_i hdeclared
    split at h
    · cases h
    rename_i bytes hcollect
    split at h
    · cases h
    rename_i hwhole
    split at h
    · cases h
    rename_i text hdecode
    cases h
    obtain ⟨hlength, rfl⟩ := collect_eq_ok_iff.mp hcollect
    exact ⟨⟨not_not.mp hstatus, declared_le_iff.mp (Bool.not_eq_true _ ▸ hdeclared),
      by simpa using hwhole, hlength, Utf8.decode?_eq_some_iff.mp hdecode⟩, rfl⟩
  · rintro ⟨⟨hstatus, hdeclared, hwhole, hlength, hencoded⟩, hkind⟩
    have hcollect := collect_eq_ok_iff.mpr ⟨hlength, hencoded⟩
    rw [ofResponse, if_neg (not_not.mpr hstatus), declared_le_iff.mpr hdeclared,
      if_neg Bool.false_ne_true, hcollect]
    simp only [hwhole, Bool.not_true, if_neg Bool.false_ne_true, Utf8.decode?_encode, ← hkind]

theorem ofResponse_chunks {chunks : List (List UInt8)} (h : chunks.flatten = r.chunks.flatten) :
    ofResponse { r with chunks } = ofResponse r := by
  simp only [ofResponse, collect_congr h]

def answered (reply : Except ConnectError (List UInt8)) : Except FetchError Http.Response := do
  let bytes ← reply.mapError .connect
  match Http.Response.read? bytes with
  | none => .error .noResponse
  | some r => .ok r

theorem fetch_eq (reply : Except ConnectError (List UInt8)) :
    fetch reply = (do ofResponse (← answered reply)) := by
  cases reply with
  | error e => rfl
  | ok bytes =>
    have hanswered : answered (.ok bytes) =
        match Http.Response.read? bytes with
        | none => .error .noResponse
        | some r => .ok r := rfl
    rw [hanswered, fetch]
    cases Http.Response.read? bytes <;> rfl

end MailAudit.MtaSts.Fetched
