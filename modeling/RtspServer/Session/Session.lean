/-
RtspServer/Session/Session.lean

One entry for each control connection.  It starts without a session; the first
SETUP gives it an id and a transport, and from then on it is a session:

    connection -> init      SETUP -> ready      PLAY -> playing      PAUSE -> ready
    TEARDOWN, disconnect, failed send, idle too long -> closed, and gone

The stream keeps what the receiver counts on: consecutive sequence numbers under
one source, whatever transport carries them.
-/
import RtspServer.Net.Address
import RtspServer.Transport.Media

namespace RtspServer

/-- The number of a control connection. Numbers are never used again. -/
abbrev ConnId := Nat

/-- Where a session stands. -/
inductive Phase where
  /-- Connected, nothing set up. -/
  | init
  /-- Set up, not delivering. -/
  | ready
  /-- Delivering. -/
  | playing
  /-- Gone. -/
  | closed
  deriving DecidableEq, Repr

/-- The RTP stream to one receiver. -/
structure Stream where
  /-- The sequence number of the next packet. -/
  sequence : UInt16
  ssrc : UInt32
  packetCount : UInt32 := 0
  /-- Octets sent, RTP headers left out. -/
  octetCount : UInt32 := 0
  /-- A sender report goes out before the next frame. -/
  reportDue : Bool := false
  /-- How many RTCP packets the receiver has sent. -/
  rtcpReceived : Nat := 0
  transport : Option TransportId := none
  deriving DecidableEq, Repr

/-- A control connection and the session on it, if there is one. -/
structure Session where
  conn : ConnId
  peer : SocketAddress
  /-- Where responses to this connection are written. -/
  outlet : OutletId
  id : Option Text := none
  phase : Phase := .init
  /-- When the peer last sent a request, in milliseconds. -/
  lastSeen : Nat
  stream : Stream
  deriving DecidableEq, Repr

namespace Session

/-- Is this the session with an id? -/
def answersTo (s : Session) (id : Text) : Bool := s.id == some id

/-- Is the session set up? -/
def isSetUp (s : Session) : Bool := s.id.isSome

/-- Is the session delivering? -/
def isPlaying (s : Session) : Bool := s.phase == .playing

/-- A session that is gone has no transport any more. -/
def close (s : Session) : Session :=
  { s with phase := .closed, stream := { s.stream with transport := none } }

end Session

end RtspServer
