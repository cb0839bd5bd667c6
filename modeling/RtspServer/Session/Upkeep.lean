/-
RtspServer/Session/Upkeep.lean

What comes from clients beside requests, and what becomes of clients from which
nothing comes.

RTCP packets pile up in the inboxes of transports until `Hub.reap` counts them.
They do not keep a session alive; only requests do.  A connection that has been
silent for longer than the timeout is closed, set up or not, except that a
session which runs on its control connection ends with that connection.
-/
import RtspServer.Rtp.SenderReport
import RtspServer.Session.Hub

namespace RtspServer

/-- What `Hub.reap` found. -/
structure ReapReport where
  /-- How many sessions are left. -/
  sessions : Nat
  /-- How many of them are playing. -/
  playing : Nat
  /-- How many connections were closed. -/
  removed : Nat
  deriving DecidableEq, Repr

namespace Hub

/-- Hand a `$` frame from a connection to the transport of its session. -/
def deliver (h : Hub) (conn : ConnId) (frame : Frame) : Bool × Hub :=
  match (h.entry? conn).bind (·.stream.transport) with
  | some id =>
    let (known, media) := h.media.deliver id frame
    (known, { h with media })
  | none => (false, h)

/-- How many RTCP packets wait in the inbox of a session. -/
def pendingReports (m : Media) (s : Session) : Nat :=
  match s.stream.transport with
  | some id => (m.inbox id).countP fun a => (Rtcp.packetType? a.payload).isSome
  | none => 0

/-- Empty the inbox of a session. -/
def emptyInbox (m : Media) (s : Session) : Media :=
  match s.stream.transport with
  | some id => m.clearInbox id
  | none => m

/-- Count the RTCP packets in all inboxes and empty them. -/
def drain (h : Hub) : Hub :=
  { h with
    sessions := h.sessions.map fun s =>
      { s with stream := { s.stream with
          rtcpReceived := s.stream.rtcpReceived + pendingReports h.media s } }
    media := h.sessions.foldl emptyInbox h.media }

/-- Has a connection been silent for too long? -/
def isIdle (h : Hub) (now : Nat) (s : Session) : Bool :=
  !h.isInterleaved s && h.settings.timeout < now - s.lastSeen

/-- Count what has come in, and close the connections that are idle. -/
def reap (h : Hub) (now : Nat) : ReapReport × Hub :=
  let h := h.drain
  let (gone, h) := h.evict (h.isIdle now) fun _ => false
  (⟨h.sessionCount, h.sessions.countP fun s => s.isSetUp && s.isPlaying, gone.length⟩, h)

end Hub

end RtspServer
