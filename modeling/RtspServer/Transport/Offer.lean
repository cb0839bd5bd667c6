/-
RtspServer/Transport/Offer.lean

Transport offers: the values of a Transport header (RFC 2326, section 12.39),
which a client sends in order of preference and a server answers with the one
it took.  An offer names a profile, then parameters after semicolons; offers are
separated by commas.

`TransportOffer.text` writes an offer and `TransportOffer.read?` reads one.  The
reader is lenient: parameters come in any order and any case, unknown ones are
skipped and a later one overrides an earlier one.  An unknown profile or a
malformed number makes the whole offer unreadable, and `readOffers` leaves it
out without disturbing its neighbours.
-/
import RtspServer.Text.Line
import RtspServer.Text.Numeral

namespace RtspServer

/-- What carries the packets: datagrams, or the control connection itself. -/
inductive LowerTransport where
  | udp
  | tcp
  deriving DecidableEq, Repr

/-- A port for RTP and a port for RTCP. -/
structure PortPair where
  rtp : UInt16
  rtcp : UInt16
  deriving DecidableEq, Repr

/-- A channel for RTP and a channel for RTCP on the control connection. -/
structure ChannelPair where
  data : UInt8
  control : UInt8
  deriving DecidableEq, Repr

/-- One offer. -/
structure TransportOffer where
  lower : LowerTransport
  multicast : Bool := false
  interleaved : Option ChannelPair := none
  clientPort : Option PortPair := none
  serverPort : Option PortPair := none
  /-- The ports of a multicast group. -/
  port : Option PortPair := none
  ssrc : Option UInt32 := none
  deriving DecidableEq, Repr

namespace PortPair

/-- Both ports with a hyphen between them. -/
def text (p : PortPair) : Text :=
  Text.decimal p.rtp.toNat ++ '-' :: Text.decimal p.rtcp.toNat

/-- Two ports with a hyphen between them, or one port, which the next one goes with. -/
def read? (t : Text) : Option PortPair :=
  match Text.cut '-' t with
  | some (a, b) => do some ⟨← Text.word16? (Text.trim a), ← Text.word16? (Text.trim b)⟩
  | none => do
    let rtp ← Text.word16? (Text.trim t)
    if rtp.toNat + 1 < UInt16.size then some ⟨rtp, rtp + 1⟩ else none

end PortPair

namespace ChannelPair

/-- Both channels with a hyphen between them. -/
def text (p : ChannelPair) : Text :=
  Text.decimal p.data.toNat ++ '-' :: Text.decimal p.control.toNat

/-- Two channels with a hyphen between them, or one channel, which the next one goes with. -/
def read? (t : Text) : Option ChannelPair :=
  match Text.cut '-' t with
  | some (a, b) => do some ⟨← Text.octet? (Text.trim a), ← Text.octet? (Text.trim b)⟩
  | none => do
    let data ← Text.octet? (Text.trim t)
    if data.toNat + 1 < UInt8.size then some ⟨data, data + 1⟩ else none

end ChannelPair

namespace TransportOffer

/-! ### Writing -/

/-- The profile of an offer. -/
def profile : LowerTransport → Text
  | .udp => "RTP/AVP".toList
  | .tcp => "RTP/AVP/TCP".toList

/-- A parameter that is present only if it has a value. -/
def parameter {α : Type} (name : String) (write : α → Text) : Option α → Text
  | some value => ';' :: name.toList ++ '=' :: write value
  | none => []

/-- An offer on one line, its parameters in a fixed order. -/
def text (o : TransportOffer) : Text :=
  profile o.lower
    ++ (if o.multicast then ";multicast".toList else ";unicast".toList)
    ++ parameter "interleaved" ChannelPair.text o.interleaved
    ++ parameter "client_port" PortPair.text o.clientPort
    ++ parameter "server_port" PortPair.text o.serverPort
    ++ parameter "port" PortPair.text o.port
    ++ parameter "ssrc" (fun s => Text.hexUpper 8 s.toNat) o.ssrc

/-! ### Reading -/

/-- The carrier a profile asks for. -/
def readProfile? (t : Text) : Option LowerTransport :=
  let name := Text.upper t
  if name == "RTP/AVP".toList || name == "RTP/AVP/UDP".toList then some .udp
  else if name == "RTP/AVP/TCP".toList then some .tcp
  else none

/-- Add one parameter to an offer. -/
def addParameter? (o : TransportOffer) (part : Text) : Option TransportOffer :=
  let (key, value) := (Text.cut '=' part).getD (part, [])
  let name := Text.lower key
  if name == "unicast".toList then some { o with multicast := false }
  else if name == "multicast".toList then some { o with multicast := true }
  else if name == "interleaved".toList then do
    some { o with interleaved := some (← ChannelPair.read? value) }
  else if name == "client_port".toList then do
    some { o with clientPort := some (← PortPair.read? value) }
  else if name == "server_port".toList then do
    some { o with serverPort := some (← PortPair.read? value) }
  else if name == "port".toList then do some { o with port := some (← PortPair.read? value) }
  else if name == "ssrc".toList then do
    some { o with ssrc := some (← Text.hexWord32? (Text.trim value)) }
  else some o

/-- One offer. -/
def read? (t : Text) : Option TransportOffer := do
  match (Text.splitOn ';' t).map Text.trim with
  | [] => none
  | name :: parameters =>
    let lower ← readProfile? name
    parameters.foldlM addParameter? { lower := lower }

/-- The readable offers of a header value, in order. -/
def readOffers (t : Text) : List TransportOffer := (Text.splitOn ',' t).filterMap read?

end TransportOffer

end RtspServer
