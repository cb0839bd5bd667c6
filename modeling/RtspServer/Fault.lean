/-
RtspServer/Fault.lean

Everything that can go wrong, as causes.  The wording of each cause is in
`Fault.message` alone.
-/
import RtspServer.Text.Numeral

namespace RtspServer

/-- Why a text is no request. -/
inductive MalformedRequest where
  /-- There is no request line. -/
  | emptyRequest
  /-- A header line has no colon. -/
  | invalidHeader
  deriving DecidableEq, Repr

/-- A cause of failure. -/
inductive Fault where
  /-- The operating system refused; `detail` is its text. -/
  | io (detail : Text)
  /-- No live session answers to `name`. -/
  | sessionNotFound (name : Text)
  /-- The client offered nothing that can be served. -/
  | unsupportedTransport (detail : Text)
  /-- The range from `first` up to but not including `limit` has no free even and odd port. -/
  | portsExhausted (first limit : UInt16)
  /-- A transport can be started only once. -/
  | alreadyStarted
  /-- A stopped transport carries nothing. -/
  | stopped
  /-- A `$` frame holds at most 65535 octets. -/
  | frameTooLarge (size : Nat)
  /-- A picture cannot be cut into packets. -/
  | invalidJpeg (detail : Text)
  /-- A picture has more quantization tables than packets can carry. -/
  | tooManyTables (count : Nat)
  /-- The service has not been started. -/
  | notStarted
  /-- The service is running already. -/
  | alreadyRunning
  /-- A text is no request. -/
  | malformed (kind : MalformedRequest)
  deriving DecidableEq, Repr

/-- What is wrong with the request. -/
def MalformedRequest.message : MalformedRequest → Text
  | .emptyRequest => "empty request".toList
  | .invalidHeader => "invalid header".toList

/-- The wording of a cause. -/
def Fault.message : Fault → Text
  | .io detail => "I/O error: ".toList ++ detail
  | .sessionNotFound name => "session not found: ".toList ++ name
  | .unsupportedTransport detail => "unsupported transport: ".toList ++ detail
  | .portsExhausted first limit =>
    "no free UDP port pair in range ".toList ++ Text.decimal first.toNat ++ '-' ::
      Text.decimal limit.toNat
  | .alreadyStarted => "transport already started".toList
  | .stopped => "transport stopped".toList
  | .frameTooLarge size =>
    "frame of ".toList ++ Text.decimal size ++ " bytes does not fit interleaved framing".toList
  | .invalidJpeg detail => "invalid JPEG frame: ".toList ++ detail
  | .tooManyTables count =>
    "JPEG frame has ".toList ++ Text.decimal count ++
      " quantization tables (at most 2 supported)".toList
  | .notStarted => "server not started".toList
  | .alreadyRunning => "server already running".toList
  | .malformed kind => "RTSP parse error: ".toList ++ kind.message

end RtspServer
