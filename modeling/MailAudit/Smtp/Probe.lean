import MailAudit.Log
import MailAudit.Network
import MailAudit.Report.Host
import MailAudit.Smtp.Fault
import MailAudit.Smtp.Reply

/-! The probe of a mail host: connect, greet, ask for TLS, shake hands, and look at the certificate.
Each step that fails ends the probe with a failed check. -/

namespace MailAudit.Smtp

/-- Bytes of a server, and how many nanoseconds after those before them they arrive. -/
structure Delivery where
  bytes : List UInt8
  delay : Nat := 0
  deriving DecidableEq, Repr

/-- What a server does when its turn comes: it sends, and then waits for the client, unless the
connection ends there or the server falls silent. -/
structure Turn where
  deliveries : List Delivery := []
  ending : Option Ending := none
  deriving DecidableEq, Repr

inductive Move where
  | send (bytes : List UInt8)
  | silent
  | close
  deriving DecidableEq, Repr

def Move.turn : Move → Turn
  | send bytes => { deliveries := [{ bytes }] }
  | silent => { ending := some .silent }
  | close => { ending := some .closed }

instance : Coe Move Turn := ⟨Move.turn⟩

/-- Why a line that a client writes does not get through: the connection fails, or it takes no
more. -/
inductive WriteFault where
  | failed (reason : String)
  | stalled
  deriving DecidableEq, Repr

/-- The turn that answers a line, if nothing keeps the line from getting through. -/
structure Response extends Turn where
  unheard : Option WriteFault := none
  deriving DecidableEq, Repr

instance : Coe Turn Response := ⟨fun turn => { turn with }⟩

/-- A server by its turns: after the connection, after the first line it reads, after the second,
and after the first message of the handshake. -/
structure Server where
  greeting : Turn
  ehlo : Response
  starttls : Response
  answer : Tls.Answer
  connectDelay : Nat := 0
  answerDelay : Nat := 0
  deriving Repr

/-- A connection as the client sees it: what arrives on it in time, and how many nanoseconds are
left when the server begins to wait for the client, if it does so in time. -/
structure Link where
  stream : Stream
  left : Option Nat
  deriving DecidableEq, Repr

def Delivery.inTime : (left : Nat) → List Delivery → List (List UInt8) × Option Nat
  | left, [] => ([], some left)
  | left, d :: rest =>
      if left < d.delay then ([], none)
      else
        let (pieces, left) := inTime (left - d.delay) rest
        (Stream.pieces d.bytes ++ pieces, left)

def Ending.answer : Ending → Tls.Answer
  | closed => .closed
  | failed reason => .failed (.transport reason)
  | silent => .silent

def WriteFault.replyError : WriteFault → ReplyError
  | failed reason => .failed reason
  | stalled => .silent

namespace Link

def opened (left : Nat) : Link := ⟨⟨[], [], .silent⟩, some left⟩

def after (l : Link) (turn : Turn) : Link :=
  match l.left with
  | none => l
  | some left =>
      let (pieces, left) := Delivery.inTime left turn.deliveries
      let stream := { l.stream with arriving := l.stream.arriving ++ pieces }
      match left, turn.ending with
      | some _, some ending => ⟨{ stream with ending }, none⟩
      | left, _ => ⟨stream, left⟩

def read (l : Link) : Except ReplyError (Reply × Link) :=
  (Reply.read l.stream).map fun (reply, stream) => (reply, { l with stream })

def respond (l : Link) (response : Response) : Except ReplyError (Reply × Link) :=
  match response.unheard with
  | some fault => .error fault.replyError
  | none => (l.after response.toTurn).read

def answer (l : Link) (server : Server) : Tls.Answer :=
  let answer : Tls.Answer :=
    match l.left with
    | some left => if left < server.answerDelay then .silent else server.answer
    | none => l.stream.ending.answer
  answer.after l.stream.arriving.flatten

end Link

/-- How a probe is made. All steps together take at most the time of `timeout`. -/
structure Client where
  timeout : Duration
  port : Nat
  ehloName : String
  roots : Tls.Trust

/-- Lines written in the clear and lines written inside the TLS session. Of a line that does not get
through, the server sees a part at most. -/
structure Sent where
  plain : List String := []
  secured : List String := []
  deriving DecidableEq, Repr

namespace Sent

def wire (line : String) : List UInt8 := Text.Utf8.encode line ++ [13, 10]

def plainBytes (s : Sent) : List UInt8 := s.plain.flatMap wire

end Sent

structure Outcome where
  checks : List Check
  fault : Option Fault
  sent : Sent
  notes : List Note
  deriving Repr

namespace Client

def replyFault (c : Client) (step : Step) : ReplyError → Fault
  | .closed => .closed
  | .failed reason => .input reason
  | .silent => .timeout step c.timeout
  | .lineTooLong => .malformed s!"reply line exceeds {Reply.maxLineBytes} bytes"
  | .tooManyLines => .malformed s!"reply has more than {Reply.maxLines} lines"
  | .malformedLine line => .malformed (Text.quoted line)
  | .codeChanged first later => .malformed s!"reply code changed from {first} to {later}"

def connect (c : Client) (peer : Except ConnectError Server) : Except Fault (Server × Nat) :=
  match peer with
  | .error .unanswered => .error (.timeout .connect c.timeout)
  | .error e => .error (.connect e)
  | .ok server =>
      if c.timeout.nanoseconds < server.connectDelay then .error (.timeout .connect c.timeout)
      else .ok (server, c.timeout.nanoseconds - server.connectDelay)

def expect (c : Client) (step : Step) (expected : Nat) (found : Except ReplyError (Reply × Link)) :
    Except Fault (Reply × Link) :=
  match found with
  | .error e => .error (c.replyFault step e)
  | .ok (reply, l) =>
      if reply.code = expected then .ok (reply, l)
      else .error (.unexpectedReply step reply.code reply.text)

def ehloLine (c : Client) : String := s!"EHLO {c.ehloName}"

def starttlsLine : String := "STARTTLS"

def quitLine : String := "QUIT"

def negotiate (c : Client) (server : Server) (left : Nat) : List String × Except Fault Link :=
  match c.expect .greeting 220 ((Link.opened left).after server.greeting).read with
  | .error fault => ([], .error fault)
  | .ok (_, l) =>
      match c.expect .ehlo 250 (l.respond server.ehlo) with
      | .error fault => ([c.ehloLine], .error fault)
      | .ok (reply, l) =>
          if !reply.hasExtension starttlsLine then
            ([c.ehloLine], .error .starttlsUnsupported)
          else
            match c.expect .starttls 220 (l.respond server.starttls) with
            | .error fault => ([c.ehloLine, starttlsLine], .error fault)
            | .ok (_, l) =>
                ([c.ehloLine, starttlsLine],
                  if l.stream.buffer.isEmpty then .ok l else .error .pipelinedData)

def shakeHands (c : Client) (answer : Tls.Answer) : Except Fault Tls.Session :=
  match answer.outcome with
  | some (.ok s) => .ok s
  | some (.error e) => .error (if e.isDeprecatedVersion then .deprecatedVersion else .handshake e)
  | none => .error (.timeout .handshake c.timeout)

def stop (checks : List Check) (name : String) (fault : Fault) (sent : List String) : Outcome :=
  ⟨checks ++ [.fail name fault.message], some fault, ⟨sent, []⟩, []⟩

def noSessionMessage : String := "Could not validate certificate without a TLS 1.2+ session"

/-- A server that speaks only old versions still encrypts, but shows nothing to judge. -/
def stopForOldVersion (checks : List Check) (sent : List String) : Outcome :=
  ⟨checks ++ [.warn Check.version Fault.deprecatedVersion.message,
      .fail Check.certificate noSessionMessage], some .deprecatedVersion, ⟨sent, []⟩, []⟩

def sessionNote (c : Client) (hostname : String) (session : Tls.Session) : Note :=
  let subject := session.chain.head?.bind c.roots.subject?
  .log .debug .probe
    (s!"{hostname} negotiated {Text.optional session.version.name} with " ++
      Text.optional (subject.map Text.quoted))

def conclude (c : Client) (hostname : String) (now : Int) (checks : List Check) (sent : List String)
    (session : Tls.Session) : Outcome :=
  let certificate := Tls.Certificate.check c.roots hostname now session.chain
  let judged :=
    if certificate.verdict.isSuccess then []
    else [.log .debug .probe s!"{hostname}: {Text.quotedList certificate.messages}"]
  let notes := c.sessionNote hostname session ::
    Tls.Certificate.notes c.roots hostname now session.chain ++ judged
  ⟨checks ++ [.pass Check.version, certificate], none, ⟨sent, [quitLine]⟩, notes⟩

def secure (c : Client) (answer : Tls.Answer) (hostname : String) (now : Int)
    (sent : List String) : Outcome :=
  let checks := [.pass Check.connectivity, .pass Check.starttls]
  match Tls.ServerName.of? hostname with
  | none =>
      ⟨checks ++ [.fail Check.version (Tls.Certificate.invalidNameMessage hostname)], none,
        ⟨sent, []⟩, []⟩
  | some _ =>
      match c.shakeHands answer with
      | .ok session => c.conclude hostname now checks sent session
      | .error .deprecatedVersion => stopForOldVersion checks sent
      | .error fault => stop checks Check.version fault sent

def probe (c : Client) (peer : Except ConnectError Server) (hostname : String) (now : Int) :
    Outcome :=
  match c.connect peer with
  | .error fault => stop [] Check.connectivity fault []
  | .ok (server, left) =>
      match c.negotiate server left with
      | (sent, .error fault) => stop [.pass Check.connectivity] Check.starttls fault sent
      | (sent, .ok l) => c.secure (l.answer server) hostname now sent

end Client

namespace Outcome

def certificateFailure : Verdict → Option Failure
  | .success => none
  | .warning => some .certificateExpiring
  | .failure => some .certificateInvalid

def failure? (o : Outcome) : Option Failure :=
  match o.fault with
  | some fault => some fault.failure
  | none => (Check.named? Check.certificate o.checks).bind fun c => certificateFailure c.verdict

end Outcome

namespace Client

def verdictNotes (r : HostReport) : List Note :=
  if r.verdict.isSuccess then []
  else
    let messages := String.intercalate "; " r.messages
    [.log .info .smtp s!"{r.hostname} ({r.domain}): {r.verdict.word} - {messages}"]

def report (c : Client) (peer : Except ConnectError Server) (domain hostname : String)
    (now : Instant) : HostReport × Sent × List Note :=
  let outcome := c.probe peer hostname now.seconds
  let report := HostReport.observed domain hostname outcome.checks now
  let notes :=
    Note.log .debug .smtp s!"Probing {hostname}:{c.port} for {domain}" :: outcome.notes ++
      Note.reached .hostProbed :: (outcome.failure?.map Note.failed).toList ++ verdictNotes report
  (report, outcome.sent, notes)

end Client

end MailAudit.Smtp
