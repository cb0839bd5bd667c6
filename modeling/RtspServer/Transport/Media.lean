/-
RtspServer/Transport/Media.lean

Media transports: what carries the packets of one session.  A transport is
started once and stopped for good; while it is neither unstarted nor stopped it
takes packets on two lanes, RTP data and RTCP control, and keeps what the client
sends in an inbox that holds sixty-four packets and drops what comes when full.

There are three carriers.  An interleaved carrier wraps every packet in a `$`
frame and writes it to the control connection, whose write half is an `Outlet`
shared with the responses.  A datagram carrier sends from a pair of UDP ports to
the client; its ports are given back some time after it is stopped, when nothing
listens on them any more.  A memory carrier keeps the packets, for programs that embed the
server and for trying it out.

`Media` holds every transport and outlet there ever was, each under its number,
so a transport keeps its identity after its session is gone.
-/
import RtspServer.Net.Address
import RtspServer.Transport.Frame
import RtspServer.Transport.Ports

namespace RtspServer

/-- RTP data or RTCP control. -/
inductive Lane where
  | data
  | control
  deriving DecidableEq, Repr

/-- A packet from the client. -/
structure Arrival where
  lane : Lane
  /-- The channel or the UDP port it came to. -/
  channel : UInt16
  payload : Bytes
  deriving DecidableEq, Repr

/-- The channel of a lane. -/
def ChannelPair.lane (c : ChannelPair) : Lane → UInt8
  | .data => c.data
  | .control => c.control

/-- The port of a lane. -/
def PortPair.lane (p : PortPair) : Lane → UInt16
  | .data => p.rtp
  | .control => p.rtcp

/-! ### Outlets -/

/-- The write half of a control connection. -/
structure Outlet where
  /-- How many writes it still takes; any number if absent. -/
  budget : Option Nat := none
  /-- The connection has been shut down. -/
  shut : Bool := false
  /-- What was written, one element per write, the last one first. -/
  written : List Bytes := []
  deriving DecidableEq, Repr

namespace Outlet

/-- Write a whole message or nothing. -/
def write (o : Outlet) (message : Bytes) : Except Fault Outlet :=
  if o.shut then .error (.io "Broken pipe (os error 32)".toList)
  else match o.budget with
    | none => .ok { o with written := message :: o.written }
    | some 0 => .error (.io "writer closed".toList)
    | some (n + 1) => .ok { o with budget := some n, written := message :: o.written }

end Outlet

/-! ### Transports -/

/-- The number of an outlet. -/
abbrev OutletId := Nat

/-- The number of a transport. -/
abbrev TransportId := Nat

/-- The two kinds of transport that a session can have. -/
inductive TransportKind where
  | udp
  | interleaved
  deriving DecidableEq, Repr

/-- What carries packets. -/
inductive Carrier where
  /-- `$` frames on a control connection. -/
  | interleaved (outlet : OutletId) (channels : ChannelPair)
  /-- Datagrams from two ports of the host to two ports of the client. -/
  | datagrams (ports : PortPair) (client : IpAddress) (clientPorts : PortPair)
  /-- Memory. It takes `budget` data packets, any number if absent, and may refuse control
  packets. -/
  | memory (kind : TransportKind) (budget : Option Nat) (refusesControl : Bool)
  deriving DecidableEq, Repr

/-- A transport. -/
structure Transport where
  carrier : Carrier
  started : Bool := false
  stopped : Bool := false
  inbox : List Arrival := []
  /-- The packets it has carried, the last one first. -/
  carried : List (Lane × Bytes) := []
  /-- Its ports have been given back. -/
  released : Bool := false
  deriving DecidableEq, Repr

namespace Transport

/-- The kind of a transport. -/
def kind (t : Transport) : TransportKind :=
  match t.carrier with
  | .interleaved .. => .interleaved
  | .datagrams .. => .udp
  | .memory kind .. => kind

/-- The packets carried on a lane, the first one first. -/
def carriedOn (t : Transport) (lane : Lane) : List Bytes :=
  ((t.carried.filter fun p => p.1 == lane).map (·.2)).reverse

/-- The most packets an inbox holds. -/
def inboxCapacity : Nat := 64

/-- Put a packet into the inbox, unless it is full. -/
def enqueue (t : Transport) (arrival : Arrival) : Transport :=
  if t.inbox.length < inboxCapacity then { t with inbox := t.inbox ++ [arrival] } else t

/-- The most octets of a datagram that are kept. -/
def maxDatagram : Nat := 2048

/-- A `$` frame from the client: is the channel one of this transport's, and what becomes of it?
A stopped transport still knows its channels, but keeps nothing. -/
def deliver (t : Transport) (frame : Frame) : Bool × Transport :=
  match t.carrier with
  | .interleaved _ channels =>
    let lane? : Option Lane :=
      if frame.channel = channels.data then some .data
      else if frame.channel = channels.control then some .control
      else none
    match lane? with
    | some lane =>
      (true,
        if t.stopped then t
        else t.enqueue ⟨lane, UInt16.ofNat frame.channel.toNat, frame.payload⟩)
    | none => (false, t)
  | _ => (false, t)

/-- A datagram from the client, cut to size. Only a transport that runs listens. -/
def hear (t : Transport) (lane : Lane) (payload : Bytes) : Transport :=
  match t.carrier with
  | .datagrams ports .. =>
    if t.started && !t.stopped then
      t.enqueue ⟨lane, ports.lane lane, payload.take maxDatagram⟩
    else t
  | _ => t

end Transport

/-! ### All transports and outlets -/

/-- Every transport and outlet, under its number, and the ports of the host. -/
structure Media where
  transports : List Transport := []
  outlets : List Outlet := []
  ports : PortPool := {}
  /-- Why no datagram leaves the host for another one, if none does. -/
  linkFault : Option Text := none
  deriving DecidableEq, Repr

namespace Media

/-- Take up a transport. -/
def addTransport (m : Media) (t : Transport) : TransportId × Media :=
  (m.transports.length, { m with transports := m.transports ++ [t] })

/-- Take up an outlet. -/
def addOutlet (m : Media) (o : Outlet) : OutletId × Media :=
  (m.outlets.length, { m with outlets := m.outlets ++ [o] })

/-- Change a transport. -/
def updateTransport (m : Media) (id : TransportId) (f : Transport → Transport) : Media :=
  { m with transports := m.transports.modify id f }

/-- Change an outlet. -/
def updateOutlet (m : Media) (id : OutletId) (f : Outlet → Outlet) : Media :=
  { m with outlets := m.outlets.modify id f }

/-- Start a transport. The second time is an error. -/
def start (m : Media) (id : TransportId) : Except Fault Media :=
  match m.transports[id]? with
  | none => .error .stopped
  | some t =>
    if t.started then .error .alreadyStarted
    else .ok (m.updateTransport id fun t => { t with started := true })

/-- Stop a transport. Stopping it again does nothing. -/
def stop (m : Media) (id : TransportId) : Media :=
  m.updateTransport id fun t => { t with stopped := true }

/-- Shut an outlet down. -/
def shut (m : Media) (id : OutletId) : Media := m.updateOutlet id fun o => { o with shut := true }

/-- Write a message to an outlet. -/
def writeOutlet (m : Media) (id : OutletId) (message : Bytes) : Except Fault Media :=
  match m.outlets[id]? with
  | none => .error .stopped
  | some o => do
    let o ← o.write message
    return m.updateOutlet id fun _ => o

/-- The most octets that one datagram carries. -/
def maxPayload : Nat := 65507

/-- What the host says of a datagram that is too long. -/
def tooLong : Text := "Message too long (os error 90)".toList

/-- Why a datagram of a size cannot be sent to a client, if it cannot.  The ports of the host are
IPv4 ports, no datagram goes to port zero, and the address `0.0.0.0` means the host itself, which
needs no link. -/
def datagramFault? (m : Media) (client : IpAddress) (port : UInt16) (size : Nat) : Option Text :=
  if 65535 < size then some tooLong
  else match client with
    | .v6 _ => some "Address family not supported by protocol (os error 97)".toList
    | .v4 .. =>
      if port = 0 then some "Invalid argument (os error 22)".toList
      else
        (if client = .v4 0 0 0 0 then none else m.linkFault).or
          (if maxPayload < size then some tooLong else none)

/-- Note that a transport has carried a packet. -/
def noteCarried (m : Media) (id : TransportId) (lane : Lane) (packet : Bytes) : Media :=
  m.updateTransport id fun t => { t with carried := (lane, packet) :: t.carried }

/-- Take one from the budget of a memory carrier. -/
def spendBudget : Carrier → Carrier
  | .memory kind (some (n + 1)) refuses => .memory kind (some n) refuses
  | carrier => carrier

/-- What a closed memory carrier says. -/
def memoryClosed : Fault := .io "transport closed".toList

/-- Send a packet on a lane of a transport. -/
def send (m : Media) (id : TransportId) (lane : Lane) (packet : Bytes) : Except Fault Media :=
  match m.transports[id]? with
  | none => .error .stopped
  | some t =>
    if t.stopped then .error .stopped
    else match t.carrier with
      | .interleaved outlet channels => do
        let frame ← Frame.write ⟨channels.lane lane, packet⟩
        let m ← m.writeOutlet outlet frame
        return m.noteCarried id lane packet
      | .datagrams _ client clientPorts =>
        match m.datagramFault? client (clientPorts.lane lane) packet.length with
        | some detail => .error (.io detail)
        | none => .ok (m.noteCarried id lane packet)
      | .memory _ budget refusesControl =>
        match lane with
        | .control =>
          if refusesControl then .error memoryClosed else .ok (m.noteCarried id lane packet)
        | .data =>
          if budget = some 0 then .error memoryClosed
          else
            .ok ((m.updateTransport id fun t => { t with carrier := spendBudget t.carrier })
              |>.noteCarried id lane packet)

/-- The oldest packet in the inbox of a transport. -/
def receive? (m : Media) (id : TransportId) : Option (Arrival × Media) :=
  match m.transports[id]? with
  | some { inbox := arrival :: rest, .. } =>
    some (arrival, m.updateTransport id fun t => { t with inbox := rest })
  | _ => none

/-- The packets in the inbox of a transport. -/
def inbox (m : Media) (id : TransportId) : List Arrival :=
  match m.transports[id]? with
  | some t => t.inbox
  | none => []

/-- Empty the inbox of a transport. -/
def clearInbox (m : Media) (id : TransportId) : Media :=
  m.updateTransport id fun t => { t with inbox := [] }

/-- Hand a `$` frame to a transport. Says whether the channel is one of its own. -/
def deliver (m : Media) (id : TransportId) (frame : Frame) : Bool × Media :=
  match m.transports[id]? with
  | some t => ((t.deliver frame).1, m.updateTransport id fun t => (t.deliver frame).2)
  | none => (false, m)

/-- The kind of a transport. -/
def kind? (m : Media) (id : TransportId) : Option TransportKind := m.transports[id]?.map (·.kind)

/-- What a transport has carried, the last packet first; the record starts afresh. -/
def takeCarried (m : Media) (id : TransportId) : Option Transport × Media :=
  (m.transports[id]?, m.updateTransport id fun t => { t with carried := [] })

/-- What was written to an outlet, the first message first; the record starts afresh. -/
def takeWritten (m : Media) (id : OutletId) : List Bytes × Media :=
  (((m.outlets[id]?.map (·.written)).getD []).reverse,
    m.updateOutlet id fun o => { o with written := [] })

/-- A new interleaved transport on an outlet. -/
def openInterleaved (m : Media) (outlet : OutletId) (channels : ChannelPair) :
    TransportId × Media :=
  m.addTransport { carrier := .interleaved outlet channels }

/-- A new datagram transport on the first free pair of ports in a range. -/
def openDatagrams (m : Media) (first limit : UInt16) (client : IpAddress) (clientPorts : PortPair) :
    Except Fault (PortPair × TransportId × Media) := do
  let (pair, ports) ← m.ports.reserve first limit
  return (pair, { m with ports }.addTransport { carrier := .datagrams pair client clientPorts })

/-- Give back the ports of a stopped transport, once nothing listens on them any more. -/
def reclaim (m : Media) (id : TransportId) : Media :=
  match m.transports[id]? with
  | some { carrier := .datagrams pair .., stopped := true, released := false, .. } =>
    { m with ports := m.ports.releasePair pair }.updateTransport id fun t =>
      { t with released := true }
  | _ => m

/-- Give back the ports of every stopped transport. -/
def reclaimAll (m : Media) : Media := (List.range m.transports.length).foldl reclaim m

end Media

end RtspServer
