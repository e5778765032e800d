import MailAudit.Proofs.Verdict
import MailAudit.Smtp.Probe
import Mathlib.Logic.ExistsUnique

namespace MailAudit

namespace Tls

namespace Certificate

variable {trust : Trust} {hostname : String} {now : Int} {chain : List Presented}

theorem exists_check_eq (trust : Trust) (hostname : String) (now : Int) (chain : List Presented) :
    ∃ verdict messages,
    check trust hostname now chain = ⟨Check.certificate, verdict, messages, []⟩ := by
  simp only [check]
  split
  · exact ⟨_, _, rfl⟩
  · split
    · split <;> exact ⟨_, _, rfl⟩
    · exact ⟨_, _, rfl⟩

theorem name_check : (check trust hostname now chain).name = Check.certificate := by
  obtain ⟨verdict, messages, hcheck⟩ := exists_check_eq trust hostname now chain
  rw [hcheck]

theorem checks_check : (check trust hostname now chain).checks = [] := by
  obtain ⟨verdict, messages, hcheck⟩ := exists_check_eq trust hostname now chain
  rw [hcheck]

theorem trusted_eq_ok_iff {own : Presented} :
    trusted trust hostname now chain = .ok own ↔
      ∃ name others, ServerName.of? hostname = some name ∧ chain = own :: others ∧
        trust.verify name now own others = .ok () := by
  constructor
  · intro h
    cases chain with
    | nil => cases h
    | cons first others =>
        cases hname : ServerName.of? hostname with
        | none =>
            simp only [trusted, hname] at h
            cases h
        | some name =>
            cases hverify : trust.verify name now first others with
            | error e =>
                simp only [trusted, hname, hverify] at h
                cases h
            | ok done =>
                simp only [trusted, hname, hverify] at h
                cases h
                exact ⟨name, others, rfl, rfl, hverify⟩
  · rintro ⟨name, others, hname, rfl, hverify⟩
    simp only [trusted, hname, hverify]

theorem verdict_check_of_trusted {own : Presented}
    (htrusted : trusted trust hostname now chain = .ok own) :
    (check trust hostname now chain).verdict = .success ↔
      ∀ days ∈ (trust.validUntil? own).map (daysBetween now), warningDays ≤ days := by
  simp only [check, htrusted]
  cases (trust.validUntil? own).map (daysBetween now) with
  | none => exact ⟨fun _ _ h => (Option.not_mem_none _ h).elim, fun _ => rfl⟩
  | some days =>
      by_cases hfew : days < warningDays
      · simp only [hfew, if_true, Option.mem_some_iff, forall_eq']
        exact ⟨fun h => (nomatch h), fun h => absurd hfew (Int.not_lt.mpr h)⟩
      · simp only [hfew, if_false, Option.mem_some_iff, forall_eq']
        exact ⟨fun _ => Int.not_lt.mp hfew, fun _ => rfl⟩

theorem verdict_check_eq_success_iff :
    (check trust hostname now chain).verdict = .success ↔
      ∃ name own others, ServerName.of? hostname = some name ∧ chain = own :: others ∧
        trust.verify name now own others = .ok () ∧
        ∀ days ∈ (trust.validUntil? own).map (daysBetween now), warningDays ≤ days := by
  constructor
  · intro h
    cases htrusted : trusted trust hostname now chain with
    | error message =>
        simp only [check, htrusted] at h
        cases h
    | ok own =>
        obtain ⟨name, others, hname, hchain, hverify⟩ := trusted_eq_ok_iff.mp htrusted
        exact ⟨name, own, others, hname, hchain, hverify, (verdict_check_of_trusted htrusted).mp h⟩
  · rintro ⟨name, own, others, hname, hchain, hverify, hdays⟩
    exact (verdict_check_of_trusted
      (trusted_eq_ok_iff.mpr ⟨name, others, hname, hchain, hverify⟩)).mpr hdays

end Certificate

end Tls

namespace Smtp

def Reply.Advertises (r : Reply) (keyword : String) : Prop :=
  ∃ line ∈ r.lines.drop 1, ∃ word, (Text.words line.toList).head? = some word ∧
    word.map Char.toLower = keyword.toList.map Char.toLower

theorem Reply.hasExtension_iff {r : Reply} {keyword : String} :
    r.hasExtension keyword = true ↔ r.Advertises keyword := by
  simp only [hasExtension, Advertises, List.any_eq_true, Option.any_eq_true, Text.equalIgnoringCase,
    beq_iff_eq]

/-- The dialogue that opens the way to a handshake: both lines get through, the three replies are
read as they should be, and nothing is left of what was read with the last one. -/
inductive Upgraded (server : Server) (left : Nat) : Link → Prop
  | intro {greeting ehlo starttls : Reply} {l₁ l₂ l₃ : Link}
      (hgreeting : ((Link.opened left).after server.greeting).read = .ok (greeting, l₁))
      (hwelcome : greeting.code = 220)
      (hehlo : l₁.respond server.ehlo = .ok (ehlo, l₂))
      (hgranted : ehlo.code = 250)
      (hadvertised : ehlo.Advertises "STARTTLS")
      (hstarttls : l₂.respond server.starttls = .ok (starttls, l₃))
      (hready : starttls.code = 220)
      (hclean : l₃.stream.buffer = []) : Upgraded server left l₃

theorem Upgraded.unique {server : Server} {left : Nat} {l l' : Link} (h : Upgraded server left l)
    (h' : Upgraded server left l') : l = l' := by
  obtain ⟨hgreeting, -, hehlo, -, -, hstarttls, -, -⟩ := h
  obtain ⟨hgreeting', -, hehlo', -, -, hstarttls', -, -⟩ := h'
  cases hgreeting.symm.trans hgreeting'
  cases hehlo.symm.trans hehlo'
  cases hstarttls.symm.trans hstarttls'
  rfl

namespace Client

inductive Course (c : Client) (peer : Except ConnectError Server) (hostname : String) (now : Int) :
    List Check → Option Fault → Prop
  | unconnected {fault} (hconnect : c.connect peer = .error fault) :
      Course c peer hostname now [.fail Check.connectivity fault.message] (some fault)
  | plain {server left fault} (hconnect : c.connect peer = .ok (server, left))
      (hnegotiate : (c.negotiate server left).2 = .error fault) :
      Course c peer hostname now
        [.pass Check.connectivity, .fail Check.starttls fault.message] (some fault)
  | unnamed {server left l} (hconnect : c.connect peer = .ok (server, left))
      (hupgraded : Upgraded server left l) (hname : Tls.ServerName.of? hostname = none) :
      Course c peer hostname now
        [.pass Check.connectivity, .pass Check.starttls,
          .fail Check.version (Tls.Certificate.invalidNameMessage hostname)] none
  | unsecured {server left l fault} (hconnect : c.connect peer = .ok (server, left))
      (hupgraded : Upgraded server left l) (hname : Tls.ServerName.of? hostname ≠ none)
      (hshake : c.shakeHands (l.answer server) = .error fault)
        (hfault : fault ≠ .deprecatedVersion) :
      Course c peer hostname now
        [.pass Check.connectivity, .pass Check.starttls,
          .fail Check.version fault.message] (some fault)
  | outdated {server left l} (hconnect : c.connect peer = .ok (server, left))
      (hupgraded : Upgraded server left l) (hname : Tls.ServerName.of? hostname ≠ none)
      (hshake : c.shakeHands (l.answer server) = .error .deprecatedVersion) :
      Course c peer hostname now
        [.pass Check.connectivity, .pass Check.starttls,
          .warn Check.version Fault.deprecatedVersion.message,
          .fail Check.certificate noSessionMessage] (some .deprecatedVersion)
  | secured {server left l session} (hconnect : c.connect peer = .ok (server, left))
      (hupgraded : Upgraded server left l) (hname : Tls.ServerName.of? hostname ≠ none)
      (hshake : c.shakeHands (l.answer server) = .ok session) :
      Course c peer hostname now
        [.pass Check.connectivity, .pass Check.starttls, .pass Check.version,
          Tls.Certificate.check c.roots hostname now session.chain] none

variable {c : Client} {server : Server} {left : Nat} {l l' : Link}

theorem expect_eq_ok_iff {step : Step} {expected : Nat} {found : Except ReplyError (Reply × Link)}
    {reply : Reply} :
    c.expect step expected found = .ok (reply, l') ↔ found = .ok (reply, l') ∧
    reply.code = expected := by
  simp only [expect]
  cases found with
  | error e => exact ⟨fun h => (nomatch h), fun h => (nomatch h.1)⟩
  | ok found =>
      obtain ⟨found, l₁⟩ := found
      by_cases hcode : found.code = expected
      · simp only [hcode, if_true, Except.ok.injEq, Prod.mk.injEq]
        exact ⟨fun h => ⟨h, h.1 ▸ hcode⟩, fun h => h.1⟩
      · simp only [hcode, if_false]
        refine ⟨fun h => (nomatch h), ?_⟩
        rintro ⟨⟨⟩, hexpected⟩
        exact absurd hexpected hcode

theorem negotiate_eq_ok_iff : (c.negotiate server left).2 = .ok l ↔ Upgraded server left l := by
  constructor
  · intro h
    simp only [negotiate] at h
    split at h
    · cases h
    · rename_i greeting l₁ hgreeting
      obtain ⟨hgreeting, hwelcome⟩ := expect_eq_ok_iff.mp hgreeting
      split at h
      · cases h
      · rename_i ehlo l₂ hehlo
        obtain ⟨hehlo, hgranted⟩ := expect_eq_ok_iff.mp hehlo
        split at h
        · cases h
        · rename_i hextension
          have hadvertised : ehlo.Advertises "STARTTLS" :=
            Reply.hasExtension_iff.mp (by simpa [starttlsLine] using hextension)
          split at h
          · cases h
          · rename_i starttls l₃ hstarttls
            obtain ⟨hstarttls, hready⟩ := expect_eq_ok_iff.mp hstarttls
            simp only at h
            split at h
            · rename_i hclean
              cases h
              exact .intro hgreeting hwelcome hehlo hgranted hadvertised hstarttls hready
                (List.isEmpty_iff.mp hclean)
            · cases h
  · rintro ⟨hgreeting, hwelcome, hehlo, hgranted, hadvertised, hstarttls, hready, hclean⟩
    have hgreeting := (@expect_eq_ok_iff c _ .greeting _ _ _).mpr ⟨hgreeting, hwelcome⟩
    have hehlo := (@expect_eq_ok_iff c _ .ehlo _ _ _).mpr ⟨hehlo, hgranted⟩
    have hstarttls := (@expect_eq_ok_iff c _ .starttls _ _ _).mpr ⟨hstarttls, hready⟩
    have hextension := Reply.hasExtension_iff.mpr hadvertised
    simp only [negotiate, hgreeting, hehlo, starttlsLine, hextension, hstarttls, hclean,
      Bool.not_true, Bool.false_eq_true, if_false, List.isEmpty_nil, if_true]

theorem shakeHands_eq_ok_iff {answer : Tls.Answer} {session : Tls.Session} :
    c.shakeHands answer = .ok session ↔ answer.outcome = some (.ok session) := by
  simp only [shakeHands]
  split
  · rename_i s hs
    rw [hs]
    simp
  · rename_i e he
    rw [he]
    simp
  · rename_i hnone
    rw [hnone]
    simp

theorem shakeHands_eq_deprecatedVersion_iff {answer : Tls.Answer} :
    c.shakeHands answer = .error .deprecatedVersion ↔
      ∃ e, answer.outcome = some (.error e) ∧ e.isDeprecatedVersion = true := by
  simp only [shakeHands]
  split
  · rename_i s hs
    rw [hs]
    simp
  · rename_i e he
    rw [he]
    cases hdeprecated : e.isDeprecatedVersion <;> simp [hdeprecated]
  · rename_i hnone
    rw [hnone]
    simp

theorem course_secure {peer : Except ConnectError Server} {hostname : String}
    (hconnect : c.connect peer = .ok (server, left)) (hupgraded : Upgraded server left l)
    (now : Int) (sent : List String) :
    Course c peer hostname now (c.secure (l.answer server) hostname now sent).checks
      (c.secure (l.answer server) hostname now sent).fault := by
  simp only [secure]
  split
  · rename_i hname
    exact .unnamed hconnect hupgraded hname
  · rename_i name hname
    have hname : Tls.ServerName.of? hostname ≠ none := by simp [hname]
    split
    · rename_i session hshake
      exact .secured hconnect hupgraded hname hshake
    · rename_i hshake
      exact .outdated hconnect hupgraded hname hshake
    · rename_i fault hfault hshake
      exact .unsecured hconnect hupgraded hname hshake hfault

theorem course_probe (c : Client) (peer : Except ConnectError Server) (hostname : String)
    (now : Int) :
    Course c peer hostname now (c.probe peer hostname now).checks
      (c.probe peer hostname now).fault := by
  simp only [probe]
  split
  · rename_i fault hconnect
    exact .unconnected hconnect
  · rename_i server left hconnect
    split
    · rename_i sent fault hnegotiate
      exact .plain hconnect (by rw [hnegotiate])
    · rename_i sent l hnegotiate
      exact course_secure hconnect (negotiate_eq_ok_iff.mp (by rw [hnegotiate])) now sent

end Client

inductive Reach where
  | unconnected
  | plain
  | unsecured
  | outdated
  | judged (certificate : Verdict)
  deriving DecidableEq, Repr

namespace Reach

def outline : Reach → List (String × Verdict)
  | unconnected => [(Check.connectivity, .failure)]
  | plain => [(Check.connectivity, .success), (Check.starttls, .failure)]
  | unsecured =>
      [(Check.connectivity, .success), (Check.starttls, .success), (Check.version, .failure)]
  | outdated =>
      [(Check.connectivity, .success), (Check.starttls, .success), (Check.version, .warning),
        (Check.certificate, .failure)]
  | judged certificate =>
      [(Check.connectivity, .success), (Check.starttls, .success), (Check.version, .success),
        (Check.certificate, certificate)]

theorem eq_of_outline_eq {r r' : Reach} (h : r.outline = r'.outline) : r = r' := by
  cases r <;> cases r' <;> simp_all [outline]

end Reach

def outlineOf (checks : List Check) : List (String × Verdict) :=
  checks.map fun check => (check.name, check.verdict)

namespace Client

variable {c : Client} {peer : Except ConnectError Server} {domain hostname : String} {now : Int}
  {checks : List Check} {fault : Option Fault}

theorem Course.exists_reach (h : Course c peer hostname now checks fault) :
    ∃ reach : Reach, outlineOf checks = reach.outline := by
  cases h with
  | unconnected => exact ⟨.unconnected, rfl⟩
  | plain => exact ⟨.plain, rfl⟩
  | unnamed => exact ⟨.unsecured, rfl⟩
  | unsecured => exact ⟨.unsecured, rfl⟩
  | outdated => exact ⟨.outdated, rfl⟩
  | @secured server left l session =>
      refine ⟨.judged (Tls.Certificate.check c.roots hostname now session.chain).verdict, ?_⟩
      simp only [outlineOf, List.map_cons, List.map_nil, Tls.Certificate.name_check]
      rfl

theorem Course.flat (h : Course c peer hostname now checks fault) :
    ∀ check ∈ checks, check.checks = [] := by
  cases h <;> simp [Check.pass, Check.warn, Check.fail, Tls.Certificate.checks_check]

theorem Course.upgraded_of_starttls (h : Course c peer hostname now checks fault) :
    (Check.named? Check.starttls checks).any (·.verdict.isSuccess) = true ↔
      ∃ server left l, c.connect peer = .ok (server, left) ∧ Upgraded server left l := by
  cases h with
  | unconnected hconnect =>
      refine ⟨fun h => (nomatch h), ?_⟩
      rintro ⟨server, left, l, hconnected, -⟩
      rw [hconnect] at hconnected
      cases hconnected
  | plain hconnect hnegotiate =>
      refine ⟨fun h => (nomatch h), ?_⟩
      rintro ⟨server, left, l, hconnected, hupgraded⟩
      rw [hconnect] at hconnected
      cases hconnected
      have hok := negotiate_eq_ok_iff (c := c).mpr hupgraded
      rw [hnegotiate] at hok
      cases hok
  | unnamed hconnect hupgraded => exact ⟨fun _ => ⟨_, _, _, hconnect, hupgraded⟩, fun _ => rfl⟩
  | unsecured hconnect hupgraded => exact ⟨fun _ => ⟨_, _, _, hconnect, hupgraded⟩, fun _ => rfl⟩
  | outdated hconnect hupgraded => exact ⟨fun _ => ⟨_, _, _, hconnect, hupgraded⟩, fun _ => rfl⟩
  | secured hconnect hupgraded => exact ⟨fun _ => ⟨_, _, _, hconnect, hupgraded⟩, fun _ => rfl⟩

theorem Course.eq_of_session (h : Course c peer hostname now checks fault) {server : Server}
    {left : Nat} {l : Link} {name : Tls.ServerName} {session : Tls.Session}
    (hconnected : c.connect peer = .ok (server, left)) (hopen : Upgraded server left l)
    (hnamed : Tls.ServerName.of? hostname = some name)
    (houtcome : (l.answer server).outcome = some (.ok session)) :
    checks = [.pass Check.connectivity, .pass Check.starttls, .pass Check.version,
      Tls.Certificate.check c.roots hostname now session.chain] := by
  have hstarttls := h.upgraded_of_starttls.mpr ⟨server, left, l, hconnected, hopen⟩
  have hsession := shakeHands_eq_ok_iff (c := c).mpr houtcome
  cases h with
  | unconnected hconnect => cases hstarttls
  | plain hconnect hnegotiate => cases hstarttls
  | unnamed hconnect hupgraded hname =>
      rw [hname] at hnamed
      cases hnamed
  | unsecured hconnect hupgraded hname hshake hfault =>
      cases hconnect.symm.trans hconnected
      cases hupgraded.unique hopen
      cases hshake.symm.trans hsession
  | outdated hconnect hupgraded hname hshake =>
      cases hconnect.symm.trans hconnected
      cases hupgraded.unique hopen
      cases hshake.symm.trans hsession
  | secured hconnect hupgraded hname hshake =>
      cases hconnect.symm.trans hconnected
      cases hupgraded.unique hopen
      cases hshake.symm.trans hsession
      rfl

theorem Course.success_iff (h : Course c peer hostname now checks fault) :
    Verdict.worst (checks.map (·.verdict)) = .success ↔
      ∃ server left l, c.connect peer = .ok (server, left) ∧ Upgraded server left l ∧
        ∃ name session own others, Tls.ServerName.of? hostname = some name ∧
          (l.answer server).outcome = some (.ok session) ∧ session.chain = own :: others ∧
          c.roots.verify name now own others = .ok () ∧
          ∀ days ∈ (c.roots.validUntil? own).map (Tls.Certificate.daysBetween now),
            Tls.Certificate.warningDays ≤ days := by
  constructor
  · intro hsuccess
    cases h with
    | unconnected hconnect => cases hsuccess
    | plain hconnect hnegotiate => cases hsuccess
    | unnamed hconnect hupgraded hname => cases hsuccess
    | unsecured hconnect hupgraded hname hshake hfault => cases hsuccess
    | outdated hconnect hupgraded hname hshake => cases hsuccess
    | @secured server left l session hconnect hupgraded hname hshake =>
        have hcertificate :
            (Tls.Certificate.check c.roots hostname now session.chain).verdict = .success :=
          Verdict.worst_eq_success_iff.mp hsuccess _ (by simp)
        obtain ⟨name, own, others, hname, hchain, hverify, hdays⟩ :=
          Tls.Certificate.verdict_check_eq_success_iff.mp hcertificate
        exact ⟨server, left, l, hconnect, hupgraded, name, session, own, others, hname,
          shakeHands_eq_ok_iff.mp hshake, hchain, hverify, hdays⟩
  · rintro ⟨server, left, l, hconnected, hopen, name, session, own, others, hnamed,
      houtcome, hchain, hverify, hdays⟩
    have hcertificate := Tls.Certificate.verdict_check_eq_success_iff.mpr
      ⟨name, own, others, hnamed, hchain, hverify, hdays⟩
    rw [h.eq_of_session hconnected hopen hnamed houtcome]
    refine Verdict.worst_eq_success_iff.mpr ?_
    simp [Check.pass, hcertificate]

theorem Course.outdated_of_outline (h : Course c peer hostname now checks fault)
    (houtline : outlineOf checks = Reach.outdated.outline) :
    ∃ server left l e, c.connect peer = .ok (server, left) ∧ Upgraded server left l ∧
      (l.answer server).outcome = some (.error e) ∧ e.isDeprecatedVersion = true := by
  cases h with
  | unconnected hconnect => simp [outlineOf, Reach.outline] at houtline
  | plain hconnect hnegotiate => simp [outlineOf, Reach.outline] at houtline
  | unnamed hconnect hupgraded hname => simp [outlineOf, Reach.outline] at houtline
  | unsecured hconnect hupgraded hname hshake hfault => simp [outlineOf, Reach.outline] at houtline
  | outdated hconnect hupgraded hname hshake =>
      obtain ⟨e, houtcome, hdeprecated⟩ := shakeHands_eq_deprecatedVersion_iff.mp hshake
      exact ⟨_, _, _, e, hconnect, hupgraded, houtcome, hdeprecated⟩
  | secured hconnect hupgraded hname hshake =>
      simp [outlineOf, Reach.outline, Check.pass] at houtline

/-- A probe ends at the first step that fails, and comes to a good end only with all of them. -/
theorem report_ends_at_first_failure (c : Client) (peer : Except ConnectError Server)
    (domain hostname : String) (now : Instant) :
    (∃! reach : Reach, outlineOf (c.report peer domain hostname now).1.checks = reach.outline) ∧
    (outlineOf (c.report peer domain hostname now).1.checks = Reach.outdated.outline →
      ∃ server left l e, c.connect peer = .ok (server, left) ∧ Upgraded server left l ∧
        (l.answer server).outcome = some (.error e) ∧ e.isDeprecatedVersion = true) ∧
    ((c.report peer domain hostname now).1.supportsStarttls = true ↔
      ∃ server left l, c.connect peer = .ok (server, left) ∧ Upgraded server left l) ∧
    ((c.report peer domain hostname now).1.verdict = .success ↔
      ∃ server left l, c.connect peer = .ok (server, left) ∧ Upgraded server left l ∧
        ∃ name session own others, Tls.ServerName.of? hostname = some name ∧
          (l.answer server).outcome = some (.ok session) ∧ session.chain = own :: others ∧
          c.roots.verify name now.seconds own others = .ok () ∧
          ∀ days ∈ (c.roots.validUntil? own).map (Tls.Certificate.daysBetween now.seconds),
            Tls.Certificate.warningDays ≤ days) := by
  have hcourse := course_probe c peer hostname now.seconds
  obtain ⟨reach, hreach⟩ := hcourse.exists_reach
  refine ⟨⟨reach, hreach, ?_⟩, hcourse.outdated_of_outline, hcourse.upgraded_of_starttls,
    hcourse.success_iff⟩
  intro other hother
  exact Reach.eq_of_outline_eq (hother.symm.trans hreach)

-- An alert of the warning level is on its way before the handshake, and the session comes with the
-- last nanosecond that is left.
theorem session_stands_in_the_last_nanosecond :
    let turn (text : String) (more : List Delivery) : Turn :=
      { deliveries := { bytes := Text.Utf8.encode text, delay := 1 } :: more }
    let server (answer : Tls.Answer) : Server :=
      { greeting := turn "220 mx\r\n" []
        ehlo := turn "250-mx\r\n250 StartTls\r\n" []
        starttls := turn "220 go\r\n" [{ bytes := [0x15, 3, 3, 0, 2, 1, 90] }]
        answer, connectDelay := 1, answerDelay := 1 }
    let modern := server (.session ⟨.tls13, [.unreadable]⟩)
    let old := server (.bytes [0x15, 3, 3, 0, 2, 2, 70])
    let mute := { modern with ehlo := { modern.ehlo with unheard := some (.failed "broken pipe") } }
    let client (nanoseconds : Nat) : Client :=
      ⟨⟨nanoseconds⟩, 25, "probe", ⟨fun _ _ _ _ => .ok (), fun _ => .error "unreadable"⟩⟩
    let report (nanoseconds : Nat) (server : Server) :=
      ((client nanoseconds).report (.ok server) "a.example" "mx.a.example" default).1
    (report 5 modern).verdict = .success ∧
      outlineOf (report 5 old).checks = Reach.outdated.outline ∧
      outlineOf (report 4 modern).checks = Reach.unsecured.outline ∧
      outlineOf (report 3 modern).checks = Reach.plain.outline ∧
      outlineOf (report 5 mute).checks = Reach.plain.outline ∧
      outlineOf (report 0 modern).checks = Reach.unconnected.outline ∧
      (∃ server left l session, (client 5).connect (.ok modern) = .ok (server, left) ∧
        Upgraded server left l ∧ (l.answer server).outcome = some (.ok session)) ∧
      (∃ server left l e, (client 5).connect (.ok old) = .ok (server, left) ∧
        Upgraded server left l ∧
        (l.answer server).outcome = some (.error e) ∧ e.isDeprecatedVersion = true) := by
  intro turn server modern old mute client report
  have hsuccess : (report 5 modern).verdict = .success := by decide +kernel
  have hold : outlineOf (report 5 old).checks = Reach.outdated.outline := by decide +kernel
  obtain ⟨-, -, -, hjudged⟩ :=
    report_ends_at_first_failure (client 5) (.ok modern) "a.example" "mx.a.example" default
  obtain ⟨-, houtdated, -⟩ :=
    report_ends_at_first_failure (client 5) (.ok old) "a.example" "mx.a.example" default
  obtain ⟨server', left, l, hconnect, hupgraded, -, session, -, -, -, houtcome, -⟩ :=
    hjudged.mp hsuccess
  exact ⟨hsuccess, hold, by decide +kernel, by decide +kernel, by decide +kernel, by decide +kernel,
    ⟨server', left, l, session, hconnect, hupgraded, houtcome⟩, houtdated hold⟩

end Client

end Smtp

end MailAudit
