/-
RtspServer/Transport/Ports.lean

The UDP ports of the host.  A session needs an even port for RTP and the next
one for RTCP.  They are found by probing a range upward; the range ends before
its limit, and both ports of a pair lie inside it.  A port held while the other
half of its pair is taken is given back before the probe goes on.
-/
import RtspServer.Fault
import RtspServer.Transport.Offer

namespace RtspServer

/-- The ports that sockets hold. -/
structure PortPool where
  taken : List UInt16 := []
  deriving DecidableEq, Repr

namespace PortPool

/-- Hold a port that nobody holds. -/
def hold? (p : PortPool) (port : UInt16) : Option PortPool :=
  if p.taken.contains port then none else some ⟨port :: p.taken⟩

/-- Give a port back. -/
def release (p : PortPool) (port : UInt16) : PortPool := ⟨p.taken.filter (· != port)⟩

/-- Give both ports of a pair back. -/
def releasePair (p : PortPool) (pair : PortPair) : PortPool :=
  (p.release pair.rtp).release pair.rtcp

/-- Hold a port and the next one. -/
def holdPair? (p : PortPool) (port : Nat) : Option (PortPair × PortPool) := do
  let pair : PortPair := ⟨UInt16.ofNat port, UInt16.ofNat (port + 1)⟩
  let one ← p.hold? pair.rtp
  let both ← one.hold? pair.rtcp
  some (pair, both)

/-- The first free pair at `port`, `port + 2`, … whose second port lies below the limit. -/
def probe (p : PortPool) (limit port : Nat) : Option (PortPair × PortPool) :=
  if port + 1 < limit then
    match p.holdPair? port with
    | some found => some found
    | none => probe p limit (port + 2)
  else none
  termination_by limit - port

/-- The first free even port with its odd neighbour, from `first` up to but without `limit`. -/
def reserve (p : PortPool) (first limit : UInt16) : Except Fault (PortPair × PortPool) :=
  match p.probe limit.toNat (first.toNat + first.toNat % 2) with
  | some found => .ok found
  | none => .error (.portsExhausted first limit)

end PortPool

end RtspServer
