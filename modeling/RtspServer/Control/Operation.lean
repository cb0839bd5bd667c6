/-
RtspServer/Control/Operation.lean

Everything that can happen to a hub, one value for each kind of event, and
`Hub.perform`, which makes it happen.  A run of a server is a list of these.
-/
import RtspServer.Control.Answer
import RtspServer.Session.Fanout
import RtspServer.Session.Upkeep
import RtspServer.Transport.Incident

namespace RtspServer

/-- One event. -/
inductive Operation where
  /-- A peer connects. -/
  | connect (peer : SocketAddress) (outlet : Outlet) (now : Nat)
  /-- A connection ends by itself. -/
  | disconnect (conn : ConnId)
  /-- A peer shows that it is there. -/
  | touch (peer : SocketAddress) (now : Nat)
  /-- A client sends a request. -/
  | request (client : Client) (request : Request) (now : Nat)
  /-- A transport is bound to a connection. -/
  | setUp (conn : ConnId) (transport : TransportId)
  | play (id : Text)
  | pause (id : Text)
  | teardown (asking : ConnId) (id : Text)
  | closeAll
  /-- A picture is sent to everyone who plays. -/
  | feed (picture : Picture) (wall : Rtcp.NtpTime)
  /-- A client sends a `$` frame. -/
  | deliver (conn : ConnId) (frame : Frame)
  /-- Idle connections are closed. -/
  | reap (now : Nat)
  /-- The ports of stopped transports are given back. -/
  | reclaim
  /-- Something happens to transports or outlets from outside. -/
  | incident (incident : Incident)

/-- Is an operation something other than feeding a picture? -/
def Operation.isQuiet : Operation → Bool
  | .feed .. => false
  | _ => true

/-- What an event gives back. -/
inductive Outcome where
  | done
  | connected (s : Session)
  | answered (response : Response) (client : Client)
  | bound (result : Except Fault SetupReply)
  | played (result : Except Fault UInt16)
  | paused (result : Except Fault Unit)
  | tornDown (gone : List ConnId)
  | closed (count : Nat)
  | fed (result : Except Fault FeedReport)
  | delivered (known : Bool)
  | reaped (report : ReapReport)

namespace Hub

/-- Make an event happen. -/
def perform (h : Hub) : Operation → Outcome × Hub
  | .connect peer outlet now =>
    let (s, h) := h.register peer outlet now
    (.connected s, h)
  | .disconnect conn => (.done, h.disconnect conn)
  | .touch peer now => (.done, h.touch peer now)
  | .request client request now =>
    let (response, client, h) := h.answer client request now
    (.answered response client, h)
  | .setUp conn transport =>
    let (result, h) := h.setUp conn transport
    (.bound result, h)
  | .play id =>
    let (result, h) := h.play id
    (.played result, h)
  | .pause id =>
    let (result, h) := h.pause id
    (.paused result, h)
  | .teardown asking id =>
    let (gone, h) := h.teardown asking id
    (.tornDown gone, h)
  | .closeAll =>
    let (count, h) := h.closeAll
    (.closed count, h)
  | .feed picture wall =>
    let (result, h) := h.feed picture wall
    (.fed result, h)
  | .deliver conn frame =>
    let (known, h) := h.deliver conn frame
    (.delivered known, h)
  | .reap now =>
    let (report, h) := h.reap now
    (.reaped report, h)
  | .reclaim => (.done, { h with media := h.media.reclaimAll })
  | .incident incident => (.done, { h with media := h.media.undergo incident })

/-- Make one event happen after the other. -/
def run (h : Hub) (operations : List Operation) : Hub :=
  operations.foldl (fun h operation => (h.perform operation).2) h

end Hub

end RtspServer
