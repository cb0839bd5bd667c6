/-
RtspServer/Session/Hub.lean

The hub: every live session, and the media that carry their packets.  Here are
the operations that bring entries in and out and look at them; the others are in
the modules beside this one.

Entries leave in one way only, by `Hub.evict`: their transports are stopped and,
unless the connection has to write one more response, their outlets are shut.
-/
import RtspServer.Auth.Authenticator
import RtspServer.Jpeg.Packetizer
import RtspServer.Session.Entropy
import RtspServer.Session.Session
import RtspServer.Session.Settings

namespace RtspServer

/-- Every live session, with all that they share. -/
structure Hub where
  settings : Settings := {}
  authenticator : Option Authenticator := none
  packetizer : Jpeg.Packetizer := {}
  entropy : Entropy
  media : Media := {}
  sessions : List Session := []
  /-- The number of the next connection. -/
  nextConn : ConnId := 1

/-- What can be told of a session. -/
structure SessionInfo where
  id : Text
  phase : Phase
  peer : SocketAddress
  sequence : UInt16
  ssrc : UInt32
  packetCount : UInt32
  octetCount : UInt32
  rtcpReceived : Nat
  transport : Option TransportKind
  deriving DecidableEq, Repr

namespace Hub

/-- A hub without connections, on a host with its ports and its link. -/
def opened (settings : Settings) (authenticator : Option Authenticator)
    (packetizer : Jpeg.Packetizer) (entropy : Entropy) (ports : PortPool)
    (linkFault : Option Text) : Hub :=
  { settings, authenticator, packetizer, entropy, media := { ports, linkFault } }

/-! ### Looking -/

/-- The entry of a connection. -/
def entry? (h : Hub) (conn : ConnId) : Option Session := h.sessions.find? (·.conn == conn)

/-- The session with an id. -/
def session? (h : Hub) (id : Text) : Option Session := h.sessions.find? (·.answersTo id)

/-- How many connections there are. -/
def connectionCount (h : Hub) : Nat := h.sessions.length

/-- How many sessions are set up. -/
def sessionCount (h : Hub) : Nat := h.sessions.countP (·.isSetUp)

/-- How many sessions are delivering. -/
def playingCount (h : Hub) : Nat := h.sessions.countP (·.isPlaying)

/-- What can be told of the session with an id. -/
def info? (h : Hub) (id : Text) : Option SessionInfo :=
  (h.session? id).map fun s => {
    id := id
    phase := s.phase
    peer := s.peer
    sequence := s.stream.sequence
    ssrc := s.stream.ssrc
    packetCount := s.stream.packetCount
    octetCount := s.stream.octetCount
    rtcpReceived := s.stream.rtcpReceived
    transport := s.stream.transport.bind h.media.kind? }

/-- Does a session run on its control connection? -/
def isInterleaved (h : Hub) (s : Session) : Bool :=
  s.stream.transport.bind h.media.kind? == some .interleaved

/-! ### Coming and going -/

/-- Change the entry of a connection. -/
def update (h : Hub) (conn : ConnId) (f : Session → Session) : Hub :=
  { h with sessions := h.sessions.map fun s => if s.conn = conn then f s else s }

/-- Take in a connection from a peer, with its outlet. -/
def register (h : Hub) (peer : SocketAddress) (outlet : Outlet) (now : Nat) : Session × Hub :=
  let (sequence, entropy) := h.entropy.drawSequence
  let (ssrc, entropy) := entropy.drawSource
  let (outletId, media) := h.media.addOutlet outlet
  let s : Session := {
    conn := h.nextConn
    peer := peer
    outlet := outletId
    lastSeen := now
    stream := { sequence, ssrc } }
  (s, { h with entropy, media, sessions := h.sessions ++ [s], nextConn := h.nextConn + 1 })

/-- Stop the transport of a session, if it has one. -/
def stopTransport (m : Media) (s : Session) : Media :=
  match s.stream.transport with
  | some id => m.stop id
  | none => m

/-- Let go of what a session holds; `keepOutlet` says whose outlet stays open. -/
def letGo (keepOutlet : Session → Bool) (m : Media) (s : Session) : Media :=
  if keepOutlet s then stopTransport m s else (stopTransport m s).shut s.outlet

/-- Take out the entries that satisfy `p`, and give them back closed. -/
def evict (h : Hub) (p keepOutlet : Session → Bool) : List Session × Hub :=
  let gone := h.sessions.filter p
  (gone.map (·.close),
    { h with
      sessions := h.sessions.filter (!p ·)
      media := gone.foldl (letGo keepOutlet) h.media })

/-- A connection has ended by itself. -/
def disconnect (h : Hub) (conn : ConnId) : Hub := (h.evict (·.conn == conn) fun _ => true).2

/-- Close every connection. Says how many there were. -/
def closeAll (h : Hub) : Nat × Hub :=
  let (gone, h) := h.evict (fun _ => true) fun _ => false
  (gone.length, h)

/-- A peer has shown that it is there. -/
def touch (h : Hub) (peer : SocketAddress) (now : Nat) : Hub :=
  { h with sessions := h.sessions.map fun s =>
      if s.peer = peer then { s with lastSeen := now } else s }

end Hub

end RtspServer
