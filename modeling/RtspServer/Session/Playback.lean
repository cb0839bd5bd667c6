/-
RtspServer/Session/Playback.lean

Setting up a session, starting and pausing delivery, and tearing down.
-/
import RtspServer.Session.Hub

namespace RtspServer

/-- What a client learns from a SETUP. -/
structure SetupReply where
  id : Text
  ssrc : UInt32
  deriving DecidableEq, Repr

namespace Hub

/-- What a SETUP makes of an entry: the id stays if there is one, the transport is replaced. -/
def bindTransport (id : Text) (transport : TransportId) (s : Session) : Session :=
  { s with
    id := some id
    phase := if s.phase = .init then .ready else s.phase
    stream := { s.stream with transport := some transport } }

/-- The id for a session on an entry: the one it has, or a new one. -/
def idFor (e : Entropy) (s : Session) : Text × Entropy :=
  match s.id with
  | some id => (id, e)
  | none => e.drawSession

/-- Bind a transport to a connection and start it.  The first SETUP draws the id; later ones keep
it and stop the transport that was bound before. -/
def setUp (h : Hub) (conn : ConnId) (transport : TransportId) : Except Fault SetupReply × Hub :=
  match h.media.start transport with
  | .error fault => (.error fault, h)
  | .ok media =>
    match h.entry? conn with
    | none =>
      (.error (.sessionNotFound ("connection ".toList ++ Text.decimal conn)),
        { h with media := media.stop transport })
    | some s =>
      let (id, entropy) := idFor h.entropy s
      (.ok ⟨id, s.stream.ssrc⟩,
        { h with entropy, media := stopTransport media s }.update conn
          (bindTransport id transport))

/-- Start delivery. Gives the sequence number of the next packet. -/
def play (h : Hub) (id : Text) : Except Fault UInt16 × Hub :=
  match h.session? id with
  | none => (.error (.sessionNotFound id), h)
  | some s =>
    if s.stream.transport.isNone then
      (.error (.unsupportedTransport "no transport bound".toList), h)
    else
      (.ok s.stream.sequence,
        h.update s.conn fun s =>
          { s with phase := .playing, stream := { s.stream with reportDue := true } })

/-- Suspend delivery. -/
def pause (h : Hub) (id : Text) : Except Fault Unit × Hub :=
  match h.session? id with
  | none => (.error (.sessionNotFound id), h)
  | some s => (.ok (), h.update s.conn fun s => { s with phase := .ready })

/-- Close every session with an id, and their connections, except that the connection that asked
stays open for the response.  Gives the connections that are gone. -/
def teardown (h : Hub) (asking : ConnId) (id : Text) : List ConnId × Hub :=
  let (gone, h) := h.evict (·.answersTo id) (·.conn == asking)
  (gone.map (·.conn), h)

end Hub

end RtspServer
