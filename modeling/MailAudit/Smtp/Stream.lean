
namespace MailAudit.Smtp

inductive Ending where
  | closed
  | failed (reason : String)
  | silent
  deriving DecidableEq, Repr

structure Stream where
  buffer : List UInt8
  arriving : List (List UInt8)
  ending : Ending
  deriving DecidableEq, Repr

namespace Stream

/-- As many bytes are taken in at once at most. -/
def bufferSize : Nat := 8192

def pieces (bytes : List UInt8) : List (List UInt8) :=
  if bytes.length ≤ bufferSize then (if bytes.isEmpty then [] else [bytes])
  else bytes.take bufferSize :: pieces (bytes.drop bufferSize)
termination_by bytes.length
decreasing_by
  simp only [List.length_drop, bufferSize] at *
  omega

def ofBytes (bytes : List UInt8) (ending : Ending) : Stream :=
  ⟨[], pieces bytes, ending⟩

def remaining (s : Stream) : List UInt8 := s.buffer ++ s.arriving.flatten

end Stream

end MailAudit.Smtp
