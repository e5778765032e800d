import MailAudit.Proofs.DomainCheck.Counting
import MailAudit.Proofs.Smtp.Course

namespace MailAudit

namespace World

theorem tally_count_note (w : World) (notes : List Note) (c : Counter) :
    (w.note notes).tally.count c = w.tally.count c + (Note.counters notes).count c := by
  rw [tally_count, tally_count, raised_note, Multiset.count_add, Multiset.coe_count, Nat.add_comm]

end World

namespace Smtp

structure CountedOnce (before after : Tally) (verdict : Verdict) : Prop where
  probed : after.milestones .hostProbed = before.milestones .hostProbed + 1
  passed : verdict = .success → ∀ f, after.failures f = before.failures f
  failed : verdict ≠ .success →
    ∃ f, ∀ g, after.failures g = before.failures g + if g = f then 1 else 0

namespace Client

/-- The way to a handshake is open, but the host has no name to shake hands under. -/
def Nameless (c : Client) (peer : Except ConnectError Server) (hostname : String) : Prop :=
  Tls.ServerName.of? hostname = none ∧
    ∃ server left l, c.connect peer = .ok (server, left) ∧ Upgraded server left l

variable {c : Client} {peer : Except ConnectError Server} {hostname : String} {now : Int}

theorem Course.verdict_of_nameless {checks : List Check} {fault : Option Fault}
    (h : Course c peer hostname now checks fault) (hnameless : c.Nameless peer hostname) :
    fault = none ∧ Check.named? Check.certificate checks = none ∧
      Verdict.worst (checks.map (·.verdict)) = .failure := by
  obtain ⟨hnone, hopen⟩ := hnameless
  have hstarttls := h.upgraded_of_starttls.mpr hopen
  cases h with
  | unconnected hconnect => cases hstarttls
  | plain hconnect hnegotiate => cases hstarttls
  | unnamed hconnect hupgraded hname => exact ⟨rfl, rfl, rfl⟩
  | unsecured hconnect hupgraded hname => exact absurd hnone hname
  | outdated hconnect hupgraded hname => exact absurd hnone hname
  | secured hconnect hupgraded hname => exact absurd hnone hname

end Client

namespace Outcome

variable {c : Client} {peer : Except ConnectError Server} {hostname : String} {now : Int}

theorem certificateFailure_eq_none_iff {v : Verdict} :
    certificateFailure v = none ↔ v = .success := by
  cases v <;> decide

theorem failure?_eq_none_iff {o : Outcome} (h : Client.Course c peer hostname now o.checks o.fault)
    (hnamed : ¬c.Nameless peer hostname) :
    o.failure? = none ↔ Verdict.worst (o.checks.map (·.verdict)) = .success := by
  obtain ⟨checks, fault, sent, notes⟩ := o
  cases h with
  | unconnected hconnect => exact ⟨fun h => (nomatch h), fun h => (nomatch h)⟩
  | plain hconnect hnegotiate => exact ⟨fun h => (nomatch h), fun h => (nomatch h)⟩
  | unnamed hconnect hupgraded hname => exact absurd ⟨hname, _, _, _, hconnect, hupgraded⟩ hnamed
  | unsecured hconnect hupgraded hname hshake hfault =>
      exact ⟨fun h => (nomatch h), fun h => (nomatch h)⟩
  | outdated hconnect hupgraded hname hshake => exact ⟨fun h => (nomatch h), fun h => (nomatch h)⟩
  | @secured server left l session hconnect hupgraded hname hshake =>
      have hfound : Check.named? Check.certificate
          [.pass Check.connectivity, .pass Check.starttls, .pass Check.version,
            Tls.Certificate.check c.roots hostname now session.chain] =
          some (Tls.Certificate.check c.roots hostname now session.chain) := by
        simp [Check.named?, Check.pass, Check.connectivity, Check.starttls, Check.version,
          Tls.Certificate.name_check, Check.certificate]
      simp only [failure?, hfound, Option.bind_some, certificateFailure_eq_none_iff]
      rw [Verdict.worst_eq_success_iff]
      simp [Check.pass]

end Outcome

namespace Client

variable (c : Client) (peer : Except ConnectError Server) (domain hostname : String) (now : Instant)
  (w : World)

def tallied : Tally := (w.note (c.report peer domain hostname now).2.2).tally

theorem milestones_tallied (m : Milestone) :
    (c.tallied peer domain hostname now w).milestones m =
      w.tally.milestones m + if m = .hostProbed then 1 else 0 := by
  simp only [tallied, Tally.milestones, World.tally_count_note, counters_report]
  cases (c.probe peer hostname now.seconds).failure? <;> cases m <;> rfl

theorem failures_tallied (f : Failure) :
    (c.tallied peer domain hostname now w).failures f = w.tally.failures f +
      if (c.probe peer hostname now.seconds).failure? = some f then 1 else 0 := by
  simp only [tallied, Tally.failures, World.tally_count_note, counters_report]
  cases (c.probe peer hostname now.seconds).failure? with
  | none => rfl
  | some g => by_cases hfg : g = f <;> simp [hfg]

theorem countedOnce_of_named (hnamed : ¬c.Nameless peer hostname) :
    CountedOnce w.tally (c.tallied peer domain hostname now w)
      (c.report peer domain hostname now).1.verdict := by
  have hnone := Outcome.failure?_eq_none_iff (course_probe c peer hostname now.seconds) hnamed
  refine ⟨milestones_tallied c peer domain hostname now w .hostProbed, ?_, ?_⟩
  · intro hpassed f
    rw [failures_tallied, hnone.mpr hpassed]
    rfl
  · intro hfailed
    obtain ⟨f, hf⟩ := Option.ne_none_iff_exists'.mp (mt hnone.mp hfailed)
    refine ⟨f, fun g => ?_⟩
    rw [failures_tallied, hf]
    simp [eq_comm]

theorem uncounted_of_nameless (hnameless : c.Nameless peer hostname) :
    (c.report peer domain hostname now).1.verdict = .failure ∧
      ∀ f, (c.tallied peer domain hostname now w).failures f = w.tally.failures f := by
  obtain ⟨hfault, hcertificate, hverdict⟩ :=
    (course_probe c peer hostname now.seconds).verdict_of_nameless hnameless
  refine ⟨hverdict, fun f => ?_⟩
  rw [failures_tallied, Outcome.failure?, hfault]
  simp [hcertificate]

/-- Every probe counts its host, and every probe that does not pass counts one failure, unless the
host answers but has no name to shake hands under: that one fails, and no failure is counted. -/
theorem probe_is_counted_once_iff :
    (CountedOnce w.tally (c.tallied peer domain hostname now w)
        (c.report peer domain hostname now).1.verdict ↔ ¬c.Nameless peer hostname) ∧
      (∀ m, (c.tallied peer domain hostname now w).milestones m =
        w.tally.milestones m + if m = .hostProbed then 1 else 0) ∧
      (c.Nameless peer hostname →
        (c.report peer domain hostname now).1.verdict = .failure ∧
          ∀ f, (c.tallied peer domain hostname now w).failures f = w.tally.failures f) := by
  refine ⟨⟨?_, countedOnce_of_named c peer domain hostname now w⟩,
    milestones_tallied c peer domain hostname now w,
    uncounted_of_nameless c peer domain hostname now w⟩
  intro hcounted hnameless
  obtain ⟨hfailure, hsame⟩ := uncounted_of_nameless c peer domain hostname now w hnameless
  obtain ⟨f, hf⟩ := hcounted.failed (by rw [hfailure]; decide)
  have hone := hf f
  rw [hsame f, if_pos rfl] at hone
  omega

theorem short_address_fails_uncounted :
    let turn (text : String) : Turn := { deliveries := [{ bytes := Text.Utf8.encode text }] }
    let server : Server :=
      { greeting := turn "220 mx.test ESMTP ready\r\n"
        ehlo := turn "250-mx.test\r\n250-SIZE 10240000\r\n250 STARTTLS\r\n"
        starttls := turn "220 go ahead\r\n"
        answer := .closed }
    let client : Client := ⟨⟨5000000000⟩, 25, "localhost", Tls.Roots.trust ⟨[]⟩⟩
    let report := (client.report (.ok server) "example.com" "127.1" default).1
    outlineOf report.checks = Reach.unsecured.outline ∧ report.verdict = .failure ∧
      ¬CountedOnce ({} : World).tally (client.tallied (.ok server) "example.com" "127.1" default {})
        report.verdict := by
  intro turn server client report
  have hfailure :
      (client.probe (.ok server) "127.1" (default : Instant).seconds).failure? = none := by
    decide +kernel
  have hverdict : report.verdict = .failure := by decide +kernel
  refine ⟨by decide +kernel, hverdict, fun hcounted => ?_⟩
  obtain ⟨f, hf⟩ := hcounted.failed (by rw [hverdict]; decide)
  have hone := hf f
  rw [failures_tallied, hfailure] at hone
  simp at hone

end Client

end Smtp

end MailAudit
