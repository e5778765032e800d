import MailAudit.Network
import MailAudit.Tally
import MailAudit.Time.Duration
import MailAudit.Tls.Handshake

namespace MailAudit.Smtp

inductive Step where
  | connect
  | greeting
  | ehlo
  | starttls
  | handshake
  deriving DecidableEq, Repr

namespace Step

def name : Step → String
  | connect => "Connect"
  | greeting => "Greeting"
  | ehlo => "EHLO"
  | starttls => "STARTTLS"
  | handshake => "TLS handshake"

def command : Step → String
  | greeting => "greeting"
  | step => step.name

end Step

inductive Fault where
  | timeout (step : Step) (after : Duration)
  | connect (e : ConnectError)
  | input (reason : String)
  | closed
  | malformed (what : String)
  | unexpectedReply (step : Step) (code : Nat) (text : String)
  | starttlsUnsupported
  | pipelinedData
  | handshake (e : Tls.HandshakeError)
  | deprecatedVersion
  deriving DecidableEq, Repr

namespace Fault

def message : Fault → String
  | timeout step after => s!"{step.name} timed out after {after.text}"
  | connect e => s!"Could not connect: {e.message}"
  | input reason => s!"I/O error: {reason}"
  | closed => "Connection closed by server"
  | malformed what => s!"Malformed SMTP reply: {what}"
  | unexpectedReply step code text => s!"Unexpected reply to {step.command}: {code} {text}"
  | starttlsUnsupported => "does not support STARTTLS"
  | pipelinedData => "Server sent data before the TLS handshake"
  | handshake e => s!"TLS handshake failed: {e.reason}"
  | deprecatedVersion => "Server only supports TLS versions below 1.2"

def failure : Fault → Failure
  | timeout _ _ => .probeTimeout
  | connect _ => .connect
  | input _ => .smtpProtocol
  | closed => .smtpProtocol
  | malformed _ => .smtpProtocol
  | unexpectedReply _ _ _ => .smtpProtocol
  | starttlsUnsupported => .starttlsUnsupported
  | pipelinedData => .smtpProtocol
  | handshake _ => .tlsHandshake
  | deprecatedVersion => .tlsVersionDeprecated

end Fault

end MailAudit.Smtp
