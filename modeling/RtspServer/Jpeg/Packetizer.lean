/-
RtspServer/Jpeg/Packetizer.lean

JPEG pictures in RTP packets (RFC 2435).  The scan data is cut into fragments;
each packet is

    RTP header | 0, fragment offset, type, Q, width / 8, height / 8 | fragment

and with Q of 128 and above the first packet carries the quantization tables
before its fragment, in a header of their own.  The marker bit is set on the
last packet alone.  Sequence number and source are zero until a packet is
stamped for its receiver.
-/
import RtspServer.Jpeg.Scan
import RtspServer.Rtp.Header

namespace RtspServer

/-- One picture from the camera. -/
structure Picture where
  /-- When it was taken, in milliseconds. -/
  time : UInt32
  data : Bytes
  width : UInt16
  height : UInt16
  deriving DecidableEq, Repr

namespace Jpeg

/-- The RTP payload type of JPEG (RFC 3551, section 6). -/
def payloadType : UInt8 := 26

/-- How pictures are cut. -/
structure Packetizer where
  /-- The most octets after the JPEG header of a packet. -/
  mtu : Nat := 1400
  /-- Every packet has room for something. -/
  mtu_pos : 0 < mtu := by decide
  /-- Q: below 100 a scale for standard tables, from 128 on tables that travel in the stream. -/
  quality : UInt8 := 255
  /-- The JPEG type: the layout of the colour components. -/
  kind : UInt8 := 1
  deriving DecidableEq, Repr

namespace Packetizer

/-- Set the size limit. A limit of zero means one. -/
def withMtu (p : Packetizer) (mtu : Nat) : Packetizer :=
  { p with mtu := max mtu 1, mtu_pos := Nat.lt_of_lt_of_le Nat.one_pos (Nat.le_max_right mtu 1) }

end Packetizer

/-- The bit that says whether the table at a place has sixteen-bit coefficients. -/
def precisionBit (place : Nat) (t : QuantTable) : Nat := if t.isWide then 1 <<< place else 0

/-- The precision octet of tables that start at a place. -/
def precision : Nat → List QuantTable → Nat
  | _, [] => 0
  | place, t :: rest => precisionBit place t + precision (place + 1) rest

/-- Tables as the first packet carries them: precision bits, size, coefficients. -/
def tableHeader (tables : List QuantTable) : Bytes :=
  let coefficients := tables.flatMap (·.coefficients)
  0 :: UInt8.ofNat (precision 0 tables) :: octets16 (UInt16.ofNat coefficients.length)
    ++ coefficients

/-- Pieces of `size` octets, the last one shorter if need be. -/
def pieces (size : Nat) (data : Bytes) : List Bytes :=
  if _h : data = [] ∨ size = 0 then []
  else data.take size :: pieces size (data.drop size)
  termination_by data.length
  decreasing_by
    have : data.length ≠ 0 := fun e => _h (Or.inl (List.length_eq_zero_iff.mp e))
    have : size ≠ 0 := fun e => _h (Or.inr e)
    simp only [List.length_drop]
    omega

/-- The header of a fragment at an offset. -/
def fragmentHeader (p : Packetizer) (picture : Picture) (offset : Nat) : Bytes :=
  octets32 (UInt32.ofNat (offset % 16777216))
    ++ [p.kind, p.quality, UInt8.ofNat (picture.width.toNat / 8),
      UInt8.ofNat (picture.height.toNat / 8)]

/-- The packet of one fragment. -/
def packet (p : Packetizer) (picture : Picture) (extra : Bytes) (offset : Nat) (last : Bool)
    (fragment : Bytes) : Bytes :=
  let header : Rtp.Header := {
    payloadType := payloadType
    timestamp := Rtp.videoClock picture.time
    marker := last }
  header.write ++ (fragmentHeader p picture offset ++ (extra ++ fragment))

/-- The packets of fragments that start at an offset, none of which carries tables. -/
def packetsFrom (p : Packetizer) (picture : Picture) : Nat → List Bytes → List Bytes
  | _, [] => []
  | offset, fragment :: rest =>
    packet p picture [] offset rest.isEmpty fragment
      :: packetsFrom p picture (offset + fragment.length) rest

/-- The packets of scan data behind a table header, which is empty if no tables travel. -/
def fragmented (p : Packetizer) (picture : Picture) (tables data : Bytes) : List Bytes :=
  let room := max (p.mtu - tables.length) 1
  let first := data.take room
  let rest := pieces p.mtu (data.drop room)
  packet p picture tables 0 rest.isEmpty first :: packetsFrom p picture first.length rest

/-- The largest side of a picture: sizes travel as one octet in units of eight. -/
def maxSide : UInt16 := 2040

/-- The most scan data whose offsets fit twenty-four bits. -/
def maxScan : Nat := 16777215

/-- The packets of a picture. -/
def Packetizer.packets (p : Packetizer) (picture : Picture) : Except Fault (List Bytes) :=
  if maxSide < picture.width ∨ maxSide < picture.height then
    .error (.invalidJpeg "dimensions exceed 2040 pixels".toList)
  else
    match Scan.ofPicture picture.data with
    | .error fault => .error fault
    | .ok scan =>
      if scan.data.isEmpty then .error (.invalidJpeg "no scan data".toList)
      else if maxScan < scan.data.length then
        .error (.invalidJpeg "scan data exceeds 24-bit fragment offset".toList)
      else
        let tables :=
          if 128 ≤ p.quality ∧ scan.tables ≠ [] then tableHeader scan.tables else []
        .ok (fragmented p picture tables scan.data)

/-- What a session description says about the stream. -/
def attributes : List Text := ["a=rtpmap:26 JPEG/90000".toList, "a=control:trackID=0".toList]

end Jpeg

end RtspServer
