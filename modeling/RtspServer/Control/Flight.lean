/-
RtspServer/Control/Flight.lean

A picture on its way, step by step.  `Hub.feed` sends a picture in one go; in a
running server other threads answer their clients meanwhile.  Three things
happen as a whole: the deliveries are noted when the picture departs, each write
is made, and the counters are put back when the picture has arrived.  Whatever
else can happen to a hub may come in between.

One picture is on its way at a time.
-/
import RtspServer.Control.Operation

namespace RtspServer

/-- A delivery on its way, and the packets that are still to be sent. -/
structure Leg where
  delivery : Delivery
  /-- The sender report has been seen to. -/
  begun : Bool := false
  packets : List Bytes
  deriving DecidableEq, Repr

/-- The whole way of a delivery. -/
def Delivery.leg (packets : List Bytes) (d : Delivery) : Leg := { delivery := d, packets }

/-- A picture on its way to everyone who played when it departed. -/
structure Flight where
  clock : UInt32
  legs : List Leg
  deriving DecidableEq, Repr

namespace Leg

/-- Is there nothing left to send? -/
def isDone (l : Leg) : Bool := l.begun && (l.delivery.failed || l.packets.isEmpty)

/-- Make one write: the sender report, if it has not been seen to, or else the next packet. -/
def advance (clock : UInt32) (wall : Rtcp.NtpTime) (l : Leg) (m : Media) : Leg × Media :=
  if l.begun then
    match l.packets with
    | [] => (l, m)
    | packet :: rest =>
      let (delivery, m) := Delivery.sendPacket (l.delivery, m) packet
      ({ l with delivery, packets := rest }, m)
  else
    let (delivery, m) := l.delivery.sendReport clock wall m
    ({ l with delivery, begun := true }, m)

end Leg

namespace Flight

/-- Go on with the first leg that is not done. -/
def advance (clock : UInt32) (wall : Rtcp.NtpTime) : List Leg → Media → List Leg × Media
  | [], m => ([], m)
  | l :: rest, m =>
    if l.isDone then
      let (rest, m) := advance clock wall rest m
      (l :: rest, m)
    else
      let (l, m) := l.advance clock wall m
      (l :: rest, m)

/-- Is there nothing left to send to anyone? -/
def isDone (f : Flight) : Bool := f.legs.all (·.isDone)

end Flight

/-- A hub and the picture that is on its way, if there is one. -/
structure Live where
  hub : Hub
  flight : Option Flight := none

/-- One step of a live hub. -/
inductive Move where
  /-- Something happens to the hub. -/
  | operation (o : Operation)
  /-- The deliveries of a picture are noted, in the order in which they will be made. -/
  | depart (picture : Picture) (order : List Delivery)
  /-- The picture on its way is written to one transport once more. -/
  | write (wall : Rtcp.NtpTime)
  /-- The counters are put back. -/
  | arrive

namespace Live

/-- Let a picture depart, unless another one is on its way, nobody plays, or it cannot be cut. -/
def depart (s : Live) (picture : Picture) (order : List Delivery) : Live :=
  match s.flight, s.hub.packetizer.packets picture with
  | none, .ok packets =>
    if order ≠ [] ∧ order.Perm s.hub.deliveries then
      { s with flight := some {
          clock := Rtp.videoClock picture.time
          legs := order.map (·.leg packets) } }
    else s
  | _, _ => s

/-- Make the next write of the picture on its way. -/
def write (s : Live) (wall : Rtcp.NtpTime) : Live :=
  match s.flight with
  | some f =>
    let (legs, media) := Flight.advance f.clock wall f.legs s.hub.media
    { hub := { s.hub with media }, flight := some { f with legs } }
  | none => s

/-- Conclude the deliveries of a picture for which nothing is left to send. -/
def arrive (s : Live) : Live :=
  match s.flight with
  | some f => if f.isDone then { hub := (s.hub.conclude (f.legs.map (·.delivery))).2 } else s
  | none => s

/-- Make one step. A step that cannot be made now changes nothing. -/
def step (s : Live) : Move → Live
  | .operation o => if o.isQuiet then { s with hub := (s.hub.perform o).2 } else s
  | .depart picture order => s.depart picture order
  | .write wall => s.write wall
  | .arrive => s.arrive

/-- Make one step after the other. -/
def run (s : Live) (moves : List Move) : Live := moves.foldl step s

end Live

end RtspServer
