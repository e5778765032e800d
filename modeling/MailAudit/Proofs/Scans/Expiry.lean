import MailAudit.Proofs.Time.Instant
import MailAudit.Scans.Cache

namespace MailAudit.Scans.Cache

variable {expiry : Duration} {now now' t u : Instant}

def Expired (expiry : Duration) (now t : Instant) : Prop :=
  expiry.nanoseconds ≤ longestExpiry ∧ (expiry.nanoseconds : Int) < now.nanoseconds - t.nanoseconds

theorem isFresh_iff {r : HostReport} (hnow : now.nanos < 1000000000)
    (hr : r.observedAt.nanos < 1000000000) :
    isFresh expiry now r = true ↔ ¬ Expired expiry now r.observedAt := by
  simp only [isFresh, Expired, Instant.since_eq hnow hr, Bool.or_eq_true, decide_eq_true_eq]
  omega

theorem Expired.trans (h : Expired expiry now t) (h' : Expired expiry t u) :
    Expired expiry now u := by
  obtain ⟨hlongest, hlt⟩ := h
  obtain ⟨-, hlt'⟩ := h'
  refine ⟨hlongest, ?_⟩
  omega

theorem Expired.later (h : Expired expiry now t) (hle : now.nanoseconds ≤ now'.nanoseconds) :
    Expired expiry now' t := by
  obtain ⟨hlongest, hlt⟩ := h
  refine ⟨hlongest, ?_⟩
  omega

end MailAudit.Scans.Cache
