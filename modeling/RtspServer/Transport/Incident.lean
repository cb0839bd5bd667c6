/-
RtspServer/Transport/Incident.lean

What happens to transports and outlets without the hub having a hand in it: a
program makes a transport of its own, packets come in, a response is written,
a carrier or a control connection takes fewer packets than before, or more.

Nothing of this starts or stops a transport.
-/
import RtspServer.Transport.Media

namespace RtspServer

/-- One thing that happens to transports and outlets from outside. -/
inductive Incident where
  /-- A transport is made, which may be bound later. -/
  | made (carrier : Carrier)
  /-- A packet from the client comes to a transport, not by way of the control connection. -/
  | arrived (transport : TransportId) (arrival : Arrival)
  /-- A memory carrier takes so many data packets from now on, and refuses control packets or
  takes them. -/
  | limited (transport : TransportId) (budget : Option Nat) (refusesControl : Bool)
  /-- A control connection takes so many writes from now on. -/
  | throttled (outlet : OutletId) (budget : Option Nat)
  /-- A message is written to a control connection, if it takes one. -/
  | written (outlet : OutletId) (message : Bytes)
  /-- Datagrams leave the host, or they do not and `fault` says why. -/
  | linked (fault : Option Text)

namespace Transport

/-- Take in a packet that comes from the client by itself.  A control connection brings packets
only as `$` frames, which `deliver` takes in. -/
def receive (t : Transport) (arrival : Arrival) : Transport :=
  match t.carrier with
  | .memory .. => { t with inbox := t.inbox ++ [arrival] }
  | .datagrams .. => t.hear arrival.lane arrival.payload
  | .interleaved .. => t

/-- Limit what a memory carrier takes. -/
def limit (t : Transport) (budget : Option Nat) (refusesControl : Bool) : Transport :=
  match t.carrier with
  | .memory kind .. => { t with carrier := .memory kind budget refusesControl }
  | _ => t

end Transport

/-- What an incident does to the transports and outlets. -/
def Media.undergo (m : Media) : Incident → Media
  | .made carrier => (m.addTransport { carrier }).2
  | .arrived id arrival => m.updateTransport id (·.receive arrival)
  | .limited id budget refusesControl => m.updateTransport id (·.limit budget refusesControl)
  | .throttled id budget => m.updateOutlet id fun o => { o with budget }
  | .written id message => (m.writeOutlet id message).toOption.getD m
  | .linked fault => { m with linkFault := fault }

end RtspServer
