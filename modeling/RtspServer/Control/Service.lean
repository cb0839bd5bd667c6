/-
RtspServer/Control/Service.lean

The service as a whole: a hub that listens on an address, from the moment it is
started until it is stopped.  It can be started again after that.

The address it listens on is written as host and port, and a `Host` tells what
that means on the machine where the service runs.  A port of zero leaves the
choice to the machine.

The listener looks up only now and then to see whether it is still wanted, so
its place stays taken for a while after the service has been stopped.
-/
import RtspServer.Control.Operation
import RtspServer.Net.Host

namespace RtspServer

/-- A hub and where it listens. -/
structure Service where
  bindAddress : Text
  hub : Hub
  running : Bool := false
  /-- Where it listens, or did when it last ran. -/
  address : Option SocketAddress := none
  /-- It was stopped, and its place is still taken. -/
  lingering : Bool := false

namespace Service

/-- Why the service cannot listen on an address, if it cannot. -/
def bindFault? (s : Service) (host : Host) (address : SocketAddress) : Option Text :=
  if s.lingering && s.address == some address then
    some "Address already in use (os error 98)".toList
  else host.bindFault? address

/-- Listen. -/
def start (s : Service) (host : Host) : Except Fault Service :=
  if s.running then .error .alreadyRunning
  else do
    let address ← host.listenAddress s.bindAddress
    match s.bindFault? host address with
    | some detail => throw (.io detail)
    | none =>
      let port := if address.port = 0 then host.freePort else address.port
      return { s with
        running := true
        address := some { address with port }
        lingering := false }

/-- Stop listening and close every connection. -/
def stop (s : Service) : Service :=
  { s with
    running := false
    hub := s.hub.closeAll.2
    lingering := s.lingering || s.running }

/-- The place of a stopped service is free again. -/
def release (s : Service) : Service := { s with lingering := false }

/-- Where the service listens, once it has been started. -/
def localAddress (s : Service) : Except Fault SocketAddress :=
  match s.address with
  | some address => .ok address
  | none => .error .notStarted

/-- Send a picture to everyone who plays. -/
def feed (s : Service) (picture : Picture) (wall : Rtcp.NtpTime) :
    Except Fault FeedReport × Service :=
  if s.running then
    let (result, hub) := s.hub.feed picture wall
    (result, { s with hub })
  else (.error .notStarted, s)

/-- Close the connections that are idle. -/
def reap (s : Service) (now : Nat) : ReapReport × Service :=
  let (report, hub) := s.hub.reap now
  (report, { s with hub })

end Service

end RtspServer
