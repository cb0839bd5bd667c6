/-
RtspServer/Session/Fanout.lean

Fanning a picture out.  It is cut into packets once, and each playing session
gets its own copy of every packet, stamped with its sequence number and source.

This goes in three steps, because the sessions may change while packets are
being sent.  First a `Delivery` is noted for each playing session.  Then packets
are sent from the deliveries alone.  At last the counters go back to those
sessions that still have the transport they had at first; a session whose
transport failed is closed instead.

A sender report that is due goes out before the packets of a frame.  If it
cannot be sent it stays due.  A packet that cannot be sent ends the delivery.
-/
import RtspServer.Rtp.SenderReport
import RtspServer.Session.Hub

namespace RtspServer

/-- What is needed to send to one session, noted before sending, and what has become of it. -/
structure Delivery where
  conn : ConnId
  transport : TransportId
  sequence : UInt16
  ssrc : UInt32
  packetCount : UInt32
  octetCount : UInt32
  reportDue : Bool
  failed : Bool := false
  /-- How many packets were taken by the transport. -/
  sent : Nat := 0
  deriving DecidableEq, Repr

/-- What became of a picture. -/
structure FeedReport where
  /-- How many sessions it was sent to. -/
  sessions : Nat := 0
  packetsSent : Nat := 0
  /-- How many of them failed and are closed. -/
  removed : Nat := 0
  deriving DecidableEq, Repr

namespace Delivery

/-- The delivery to a session, if it is playing. -/
def ofSession? (s : Session) : Option Delivery :=
  if s.isPlaying then
    s.stream.transport.map fun transport => {
      conn := s.conn
      transport := transport
      sequence := s.stream.sequence
      ssrc := s.stream.ssrc
      packetCount := s.stream.packetCount
      octetCount := s.stream.octetCount
      reportDue := s.stream.reportDue }
  else none

/-- The sender report of a delivery. -/
def senderReport (d : Delivery) (clock : UInt32) (wall : Rtcp.NtpTime) : Rtcp.SenderReport :=
  ⟨d.ssrc, wall, clock, d.packetCount, d.octetCount⟩

/-- Send the sender report, if it is due. -/
def sendReport (clock : UInt32) (wall : Rtcp.NtpTime) (d : Delivery) (m : Media) :
    Delivery × Media :=
  if d.reportDue then
    match m.send d.transport .control (d.senderReport clock wall).write with
    | .ok m => ({ d with reportDue := false }, m)
    | .error _ => (d, m)
  else (d, m)

/-- A packet as this receiver gets it. -/
def stamped (d : Delivery) (packet : Bytes) : Bytes := Rtp.stamp packet d.sequence d.ssrc

/-- Count a packet. -/
def count (d : Delivery) (packet : Bytes) : Delivery :=
  { d with
    sequence := d.sequence + 1
    packetCount := d.packetCount + 1
    octetCount := d.octetCount + UInt32.ofNat (packet.length - Rtp.headerSize) }

/-- Send one packet, unless an earlier one has failed. -/
def sendPacket (state : Delivery × Media) (packet : Bytes) : Delivery × Media :=
  let (d, m) := state
  if d.failed then (d, m)
  else
    match m.send d.transport .data (d.stamped packet) with
    | .ok m => ({ d.count packet with sent := d.sent + 1 }, m)
    | .error _ => ({ d.count packet with failed := true }, m)

/-- Send the sender report, if it is due, and all packets. -/
def send (clock : UInt32) (wall : Rtcp.NtpTime) (packets : List Bytes) (d : Delivery) (m : Media) :
    Delivery × Media :=
  packets.foldl sendPacket (d.sendReport clock wall m)

/-- Send to one session after the other. -/
def sendAll (clock : UInt32) (wall : Rtcp.NtpTime) (packets : List Bytes) :
    List Delivery → Media → List Delivery × Media
  | [], m => ([], m)
  | d :: rest, m =>
    let (d, m) := d.send clock wall packets m
    let (rest, m) := sendAll clock wall packets rest m
    (d :: rest, m)

/-- How many packets were taken altogether. -/
def totalSent : List Delivery → Nat
  | [] => 0
  | d :: rest => d.sent + totalSent rest

/-- Is this the delivery to a session, and is the transport still the one that was used? -/
def concerns (s : Session) (d : Delivery) : Bool :=
  d.conn == s.conn && s.stream.transport == some d.transport

/-- Has the delivery to a session failed? -/
def failedFor (deliveries : List Delivery) (s : Session) : Bool :=
  (deliveries.find? (concerns s)).any (·.failed)

/-- Put the counters back. -/
def writeBack (d : Delivery) (s : Session) : Session :=
  { s with stream := { s.stream with
      sequence := d.sequence
      packetCount := d.packetCount
      octetCount := d.octetCount
      reportDue := d.reportDue } }

/-- A session after the deliveries. -/
def settle (deliveries : List Delivery) (s : Session) : Session :=
  match deliveries.find? (concerns s) with
  | some d => d.writeBack s
  | none => s

end Delivery

namespace Hub

/-- The deliveries to all playing sessions. -/
def deliveries (h : Hub) : List Delivery := h.sessions.filterMap Delivery.ofSession?

/-- Put the counters of deliveries back and close the sessions whose delivery failed. -/
def conclude (h : Hub) (deliveries : List Delivery) : List Session × Hub :=
  let (gone, h) := h.evict (Delivery.failedFor deliveries) fun _ => false
  (gone, { h with sessions := h.sessions.map (Delivery.settle deliveries) })

/-- Send a picture to every playing session.  With nobody playing it is not even looked at; a
picture that cannot be cut is sent to nobody. -/
def feed (h : Hub) (picture : Picture) (wall : Rtcp.NtpTime) : Except Fault FeedReport × Hub :=
  match h.deliveries with
  | [] => (.ok {}, h)
  | deliveries =>
    match h.packetizer.packets picture with
    | .error fault => (.error fault, h)
    | .ok packets =>
      let clock := Rtp.videoClock picture.time
      let (deliveries, media) := Delivery.sendAll clock wall packets deliveries h.media
      let (gone, h) := { h with media }.conclude deliveries
      (.ok ⟨deliveries.length, Delivery.totalSent deliveries, gone.length⟩, h)

end Hub

end RtspServer
