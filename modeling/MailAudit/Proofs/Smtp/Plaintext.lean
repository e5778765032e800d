import MailAudit.Program.Initialization
import MailAudit.Proofs.PoolSize
import MailAudit.Proofs.Smtp.Course
import MailAudit.Proofs.Text.Utf8

namespace MailAudit.Smtp

def Greeted (server : Server) (left : Nat) (l : Link) : Prop :=
  ∃ greeting, ((Link.opened left).after server.greeting).read = .ok (greeting, l) ∧
    greeting.code = 220

def Offered (server : Server) (left : Nat) (l : Link) : Prop :=
  ∃ l₁ reply, Greeted server left l₁ ∧ l₁.respond server.ehlo = .ok (reply, l) ∧
    reply.code = 250 ∧ reply.Advertises "STARTTLS"

def Fault.OfHandshake : Fault → Prop
  | timeout step _ => step = .handshake
  | handshake _ => True
  | deprecatedVersion => True
  | _ => False

def Outcome.ShowsHandshake (o : Outcome) : Prop :=
  o.sent.secured ≠ [] ∨ ∃ fault ∈ o.fault, fault.OfHandshake

theorem Greeted.unique {server : Server} {left : Nat} {l l' : Link} (h : Greeted server left l)
    (h' : Greeted server left l') : l = l' := by
  obtain ⟨greeting, hread, -⟩ := h
  obtain ⟨greeting', hread', -⟩ := h'
  rw [hread] at hread'
  cases hread'
  rfl

theorem Greeted.offered_iff {server : Server} {left : Nat} {l l₁ : Link}
    (h : Greeted server left l₁) :
    Offered server left l ↔ ∃ reply, l₁.respond server.ehlo = .ok (reply, l) ∧
      reply.code = 250 ∧ reply.Advertises "STARTTLS" := by
  constructor
  · rintro ⟨l₁', reply, hgreeted, hreply⟩
    rw [h.unique hgreeted]
    exact ⟨reply, hreply⟩
  · rintro ⟨reply, hreply⟩
    exact ⟨l₁, reply, h, hreply⟩

namespace Client

variable {c : Client} {server : Server} {left : Nat} {l : Link} {fault : Fault}

def Reaches (c : Client) (peer : Except ConnectError Server)
    (stage : Server → Nat → Link → Prop) : Prop :=
  ∃ server left l, c.connect peer = .ok (server, left) ∧ stage server left l

inductive Spoken (c : Client) (peer : Except ConnectError Server) : List String → Prop
  | silent (hgreeted : ¬c.Reaches peer Greeted) : Spoken c peer []
  | introduced (hgreeted : c.Reaches peer Greeted) (hoffered : ¬c.Reaches peer Offered) :
      Spoken c peer [c.ehloLine]
  | asked (hoffered : c.Reaches peer Offered) : Spoken c peer [c.ehloLine, starttlsLine]

theorem reaches_iff {peer : Except ConnectError Server} {stage : Server → Nat → Link → Prop}
    (hconnect : c.connect peer = .ok (server, left)) :
    c.Reaches peer stage ↔ ∃ l, stage server left l := by
  constructor
  · rintro ⟨server', left', l, hconnect', hstage⟩
    cases hconnect.symm.trans hconnect'
    exact ⟨l, hstage⟩
  · rintro ⟨l, hstage⟩
    exact ⟨server, left, l, hconnect, hstage⟩

theorem not_reaches {peer : Except ConnectError Server} {stage : Server → Nat → Link → Prop}
    (hconnect : c.connect peer = .error fault) : ¬c.Reaches peer stage := by
  rintro ⟨server, left, l, hconnect', -⟩
  cases hconnect.symm.trans hconnect'

theorem spoken_negotiate {peer : Except ConnectError Server}
    (hconnect : c.connect peer = .ok (server, left)) :
    Spoken c peer (c.negotiate server left).1 := by
  simp only [negotiate]
  split
  · rename_i fault hgreeting
    refine .silent fun hreaches => ?_
    obtain ⟨l, reply, hread, hcode⟩ := (reaches_iff hconnect).mp hreaches
    rw [expect_eq_ok_iff.mpr ⟨hread, hcode⟩] at hgreeting
    cases hgreeting
  · rename_i greeting l₁ hgreeting
    have hgreeted : Greeted server left l₁ := ⟨greeting, expect_eq_ok_iff.mp hgreeting⟩
    have hwelcome : c.Reaches peer Greeted := (reaches_iff hconnect).mpr ⟨l₁, hgreeted⟩
    split
    · rename_i fault hehlo
      refine .introduced hwelcome fun hreaches => ?_
      obtain ⟨l, hoffered⟩ := (reaches_iff hconnect).mp hreaches
      obtain ⟨reply, hread, hcode, -⟩ := hgreeted.offered_iff.mp hoffered
      rw [expect_eq_ok_iff.mpr ⟨hread, hcode⟩] at hehlo
      cases hehlo
    · rename_i reply l₂ hehlo
      obtain ⟨hread, hcode⟩ := expect_eq_ok_iff.mp hehlo
      split
      · rename_i hextension
        refine .introduced hwelcome fun hreaches => ?_
        obtain ⟨l, hoffered⟩ := (reaches_iff hconnect).mp hreaches
        obtain ⟨reply', hread', -, hadvertised⟩ := hgreeted.offered_iff.mp hoffered
        cases hread.symm.trans hread'
        have hhas : reply.hasExtension starttlsLine = true := Reply.hasExtension_iff.mpr hadvertised
        simp [hhas] at hextension
      · rename_i hextension
        have hadvertised : reply.Advertises "STARTTLS" :=
          Reply.hasExtension_iff.mp (by simpa [starttlsLine] using hextension)
        have hoffered : c.Reaches peer Offered :=
          (reaches_iff hconnect).mpr ⟨l₂,
            hgreeted.offered_iff.mpr ⟨reply, hread, hcode, hadvertised⟩⟩
        split <;> exact .asked hoffered

theorem not_ofHandshake_of_expect {step : Step} {expected : Nat}
    {found : Except ReplyError (Reply × Link)} (hstep : step ≠ .handshake)
    (h : c.expect step expected found = .error fault) : ¬fault.OfHandshake := by
  cases found with
  | error e =>
      cases h
      cases e <;> first | exact id | exact hstep
  | ok found =>
      simp only [expect] at h
      split at h
      · cases h
      · cases h
        exact id

theorem not_ofHandshake_of_negotiate (h : (c.negotiate server left).2 = .error fault) :
    ¬fault.OfHandshake := by
  simp only [negotiate] at h
  split at h
  · rename_i hgreeting
    cases h
    exact not_ofHandshake_of_expect (by decide) hgreeting
  · split at h
    · rename_i hehlo
      cases h
      exact not_ofHandshake_of_expect (by decide) hehlo
    · split at h
      · cases h
        exact id
      · split at h
        · rename_i hstarttls
          cases h
          exact not_ofHandshake_of_expect (by decide) hstarttls
        · simp only at h
          split at h
          · cases h
          · cases h
            exact id

theorem ofHandshake_of_shakeHands {answer : Tls.Answer} (h : c.shakeHands answer = .error fault) :
    fault.OfHandshake := by
  simp only [shakeHands] at h
  split at h
  · cases h
  · split at h
    · cases h
      trivial
    · cases h
      trivial
  · cases h
    rfl

theorem plain_secure (c : Client) (answer : Tls.Answer) (hostname : String) (now : Int)
    (sent : List String) : (c.secure answer hostname now sent).sent.plain = sent := by
  simp only [secure]
  split
  · rfl
  · split <;> rfl

theorem showsHandshake_secure (c : Client) (answer : Tls.Answer) (hostname : String) (now : Int)
    (sent : List String) :
    (c.secure answer hostname now sent).ShowsHandshake ↔ Tls.ServerName.of? hostname ≠ none := by
  simp only [secure]
  split
  · rename_i hname
    simp [Outcome.ShowsHandshake, hname]
  · rename_i name hname
    refine ⟨fun _ => by simp [hname], fun _ => ?_⟩
    split
    · exact .inl (List.cons_ne_nil _ _)
    · exact .inr ⟨_, rfl, trivial⟩
    · rename_i hshake
      exact .inr ⟨_, rfl, ofHandshake_of_shakeHands hshake⟩

theorem not_showsHandshake_stop {checks : List Check} {name : String} {sent : List String}
    (h : ¬fault.OfHandshake) : ¬(stop checks name fault sent).ShowsHandshake := by
  rintro (hsecured | ⟨_, ⟨⟩, hof⟩)
  · exact hsecured rfl
  · exact h hof

variable {peer : Except ConnectError Server} {hostname : String} {now : Int}

theorem spoken_probe (c : Client) (peer : Except ConnectError Server) (hostname : String)
    (now : Int) :
    Spoken c peer (c.probe peer hostname now).sent.plain := by
  simp only [probe]
  split
  · rename_i fault hconnect
    exact .silent (not_reaches hconnect)
  · rename_i server left hconnect
    have hspoken := spoken_negotiate hconnect
    split
    · rename_i sent fault hnegotiate
      rwa [hnegotiate] at hspoken
    · rename_i sent l hnegotiate
      rwa [plain_secure, ← show (c.negotiate server left).1 = sent by rw [hnegotiate]]

theorem not_ofHandshake_of_connect (hconnect : c.connect peer = .error fault) :
    ¬fault.OfHandshake := by
  simp only [connect] at hconnect
  split at hconnect
  · cases hconnect
    exact nofun
  · cases hconnect
    exact id
  · split at hconnect
    · cases hconnect
      exact nofun
    · cases hconnect

theorem showsHandshake_probe_iff :
    (c.probe peer hostname now).ShowsHandshake ↔
      Tls.ServerName.of? hostname ≠ none ∧ c.Reaches peer Upgraded := by
  simp only [probe]
  split
  · rename_i fault hconnect
    exact iff_of_false (not_showsHandshake_stop (not_ofHandshake_of_connect hconnect))
      fun h => not_reaches hconnect h.2
  · rename_i server left hconnect
    rw [reaches_iff hconnect]
    split
    · rename_i sent fault hnegotiate
      have herror : (c.negotiate server left).2 = .error fault := by rw [hnegotiate]
      refine iff_of_false (not_showsHandshake_stop (not_ofHandshake_of_negotiate herror)) ?_
      rintro ⟨-, l, hupgraded⟩
      rw [negotiate_eq_ok_iff.mpr hupgraded] at herror
      cases herror
    · rename_i sent l hnegotiate
      have hupgraded : Upgraded server left l := negotiate_eq_ok_iff.mp (by rw [hnegotiate])
      rw [showsHandshake_secure]
      exact (and_iff_left ⟨l, hupgraded⟩).symm

def IsOneLine (bytes : List UInt8) : Prop := 13 ∉ bytes ∧ 10 ∉ bytes

theorem isOneLine_encode_iff {text : String} :
    IsOneLine (Text.Utf8.encode text) ↔ '\r' ∉ text.toList ∧ '\n' ∉ text.toList := by
  have hreturn : 13 ∈ Text.Utf8.encode text ↔ '\r' ∈ text.toList :=
    Text.Utf8.ascii_mem_encode_iff (d := '\r') (by decide)
  rw [IsOneLine, hreturn, Text.Utf8.lineFeed_mem_encode_iff]

theorem isOneLine_of_isEhloName {name : String} (h : Settings.isEhloName name = true) :
    IsOneLine (Text.Utf8.encode name) := by
  simp only [Settings.isEhloName, Bool.and_eq_true, Bool.not_eq_true', List.any_eq_false] at h
  exact isOneLine_encode_iff.mpr ⟨fun hmem => h.2 _ hmem (by decide),
    fun hmem => h.2 _ hmem (by decide)⟩

theorem IsOneLine.append {bytes more : List UInt8} (h : IsOneLine bytes) (hmore : IsOneLine more) :
    IsOneLine (bytes ++ more) :=
  ⟨fun hmem => (List.mem_append.mp hmem).elim h.1 hmore.1,
    fun hmem => (List.mem_append.mp hmem).elim h.2 hmore.2⟩

theorem wire_ehloLine (c : Client) :
    Sent.wire c.ehloLine = Text.Utf8.encode "EHLO " ++ Text.Utf8.encode c.ehloName ++ [13, 10] := by
  rw [Sent.wire, ← Text.Utf8.encode_append]
  rfl

theorem wire_ne_nil (line : String) : Sent.wire line ≠ [] := by simp [Sent.wire]

theorem reaches_greeted_of_offered (h : c.Reaches peer Offered) : c.Reaches peer Greeted := by
  obtain ⟨server, left, l, hconnect, l₁, reply, hgreeted, -⟩ := h
  exact ⟨server, left, l₁, hconnect, hgreeted⟩

theorem Spoken.plainBytes {sent : Sent} (h : Spoken c peer sent.plain) :
    (sent.plainBytes = [] ∨ sent.plainBytes = Sent.wire c.ehloLine ∨
        sent.plainBytes = Sent.wire c.ehloLine ++ Sent.wire starttlsLine) ∧
      (sent.plainBytes ≠ [] ↔ c.Reaches peer Greeted) ∧
      (sent.plainBytes = Sent.wire c.ehloLine ++ Sent.wire starttlsLine ↔
        c.Reaches peer Offered) := by
  rw [Sent.plainBytes]
  generalize sent.plain = lines at h
  cases h with
  | silent hgreeted =>
      refine ⟨.inl rfl, iff_of_false (fun h => h rfl) hgreeted, iff_of_false ?_ ?_⟩
      · exact fun h => wire_ne_nil _ (List.append_eq_nil_iff.mp h.symm).1
      · exact fun hoffered => hgreeted (reaches_greeted_of_offered hoffered)
  | introduced hgreeted hoffered =>
      simp only [List.flatMap_cons, List.flatMap_nil, List.append_nil]
      refine ⟨.inr (.inl trivial), iff_of_true (wire_ne_nil _) hgreeted, iff_of_false ?_ hoffered⟩
      exact fun h => wire_ne_nil _ (List.self_eq_append_right.mp h)
  | asked hoffered =>
      simp only [List.flatMap_cons, List.flatMap_nil, List.append_nil]
      refine ⟨.inr (.inr trivial), iff_of_true ?_ (reaches_greeted_of_offered hoffered),
        iff_of_true trivial hoffered⟩
      exact fun h => wire_ne_nil _ (List.append_eq_nil_iff.mp h).1

/-- Whatever settings are accepted and whatever comes from the other side, a probe says nothing in
the clear, introduces itself, or introduces itself and asks for a handshake. It says the first line
exactly if it has been welcomed, the second exactly if it has been offered a handshake, and shakes
hands, under a name that there is, exactly if it has been told to go on and has nothing left to
read. -/
theorem plain_side_cannot_be_steered (s : Settings) (roots : Tls.Roots)
    (hvalid : s.validate = .ok ()) (peer : Except ConnectError Server) (hostname : String)
    (now : Int) :
    let c := Program.Machine.client s roots
    let outcome := c.probe peer hostname now
    let ehlo := Text.Utf8.encode "EHLO " ++ Text.Utf8.encode s.ehloName
    let starttls := Text.Utf8.encode "STARTTLS"
    (IsOneLine ehlo ∧ IsOneLine starttls) ∧
      (outcome.sent.plainBytes = [] ∨ outcome.sent.plainBytes = ehlo ++ [13, 10] ∨
        outcome.sent.plainBytes = ehlo ++ [13, 10] ++ (starttls ++ [13, 10])) ∧
      (outcome.sent.plainBytes ≠ [] ↔ c.Reaches peer Greeted) ∧
      (outcome.sent.plainBytes = ehlo ++ [13, 10] ++ (starttls ++ [13, 10]) ↔
        c.Reaches peer Offered) ∧
      (outcome.ShowsHandshake ↔ Tls.ServerName.of? hostname ≠ none ∧ c.Reaches peer Upgraded) := by
  intro c outcome ehlo starttls
  obtain ⟨-, -, -, -, hname, -⟩ := Settings.validate_eq_ok_iff.mp hvalid
  have hehlo : IsOneLine ehlo :=
    (isOneLine_encode_iff.mpr (by decide)).append (isOneLine_of_isEhloName hname)
  have hstarttls : IsOneLine starttls := isOneLine_encode_iff.mpr (by decide)
  obtain ⟨hbytes, hgreeted, hoffered⟩ := (spoken_probe c peer hostname now).plainBytes
  rw [wire_ehloLine] at hbytes hoffered
  exact ⟨⟨hehlo, hstarttls⟩, hbytes, hgreeted, hoffered, showsHandshake_probe_iff⟩

theorem early_bytes_keep_the_handshake_from_beginning :
    let turn (text : String) : Turn := { deliveries := [{ bytes := Text.Utf8.encode text }] }
    let server : Server :=
      { greeting := turn "220-mx\r\n220 welcome\r\n"
        ehlo := turn "250-mx\r\n250 StartTLS\r\n"
        starttls := turn "220 go ahead\r\n250 ready\r\n"
        answer := .closed }
    let s : Settings := { ehloName := "prüfer.example" }
    let c := Program.Machine.client s ⟨[]⟩
    let outcome := c.probe (.ok server) "mx.example" 0
    s.validate = .ok () ∧
      outcome.sent.plainBytes = Text.Utf8.encode "EHLO prüfer.example\r\nSTARTTLS\r\n" ∧
      outcome.fault = some .pipelinedData ∧
      c.Reaches (.ok server) Offered ∧ ¬c.Reaches (.ok server) Upgraded := by
  intro turn server s c outcome
  have hvalid : s.validate = .ok () := by decide +kernel
  have hsent : outcome.sent = ⟨["EHLO prüfer.example", "STARTTLS"], []⟩ := by decide +kernel
  have hfault : outcome.fault = some .pipelinedData := by decide +kernel
  obtain ⟨-, -, -, hoffered, hshown⟩ :=
    plain_side_cannot_be_steered s ⟨[]⟩ hvalid (.ok server) "mx.example" 0
  refine ⟨hvalid, ?_, hfault, ?_, fun hupgraded => ?_⟩
  · rw [hsent]
    decide +kernel
  · refine hoffered.mp ?_
    change outcome.sent.plainBytes = _
    rw [hsent]
    decide +kernel
  · rcases hshown.mpr ⟨by decide +kernel, hupgraded⟩ with hsecured | ⟨fault, hmem, hof⟩
    · change outcome.sent.secured ≠ [] at hsecured
      rw [hsent] at hsecured
      exact hsecured rfl
    · change fault ∈ outcome.fault at hmem
      rw [hfault] at hmem
      cases hmem
      exact hof

end Client

end MailAudit.Smtp
