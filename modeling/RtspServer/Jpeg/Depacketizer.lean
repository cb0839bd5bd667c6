/-
RtspServer/Jpeg/Depacketizer.lean

The receiver's side of JPEG in RTP packets (RFC 2435): what can be told of a
picture from its packets alone.

After the two headers a packet carries scan data, which belongs at the fragment
offset.  With Q of 128 and above the fragment at offset zero stands behind a
table header:

    zero | precision bits | size, two octets | that many octets of coefficients

A table has sixty-four coefficients, each of one octet, or of two if its
precision bit is set.  The selectors of tables do not travel.

Packets may come in any order and more than once.  A picture is whole when its
last packet has come and no octet is missing.
-/
import RtspServer.Jpeg.Scan
import RtspServer.Rtp.Header

namespace RtspServer

namespace Jpeg

/-- The two headers of a packet and what comes after them. -/
structure Fragment where
  rtp : Rtp.Header
  /-- The octet that types of pictures may use as they like. -/
  specific : UInt8
  /-- Where the scan data of the packet belongs. -/
  offset : Nat
  kind : UInt8
  quality : UInt8
  /-- In units of eight. -/
  width : UInt8
  /-- In units of eight. -/
  height : UInt8
  payload : Bytes
  deriving DecidableEq, Repr

/-- Read the two headers of a packet. -/
def Fragment.read? (packet : Bytes) : Option Fragment :=
  match Rtp.Header.read? packet, packet.drop Rtp.headerSize with
  | some rtp, specific :: a :: b :: c :: kind :: quality :: width :: height :: payload =>
    some { rtp, specific, offset := (word32 0 a b c).toNat, kind, quality, width, height, payload }
  | _, _ => none

/-- A quantization table as a receiver knows it. -/
structure ReceivedTable where
  isWide : Bool
  coefficients : Bytes
  deriving DecidableEq, Repr

/-- What travels of a table. -/
def QuantTable.received (t : QuantTable) : ReceivedTable := ⟨t.isWide, t.coefficients⟩

/-- How many octets the coefficients of a table take. -/
def tableSize (isWide : Bool) : Nat := if isWide then 128 else 64

/-- Cut coefficients into tables, the first of which has its precision bit at a place. -/
def cutTables? (precision : UInt8) (place : Nat) (coefficients : Bytes) :
    Option (List ReceivedTable) :=
  if _h : coefficients = [] then some []
  else
    let isWide := precision.toNat.testBit place
    if coefficients.length < tableSize isWide then none
    else
      (cutTables? precision (place + 1) (coefficients.drop (tableSize isWide))).map
        (⟨isWide, coefficients.take (tableSize isWide)⟩ :: ·)
  termination_by coefficients.length
  decreasing_by
    have : coefficients.length ≠ 0 := fun e => _h (List.length_eq_zero_iff.mp e)
    simp only [List.length_drop, tableSize]
    split <;> omega

/-- Take a table header off the front of a payload. -/
def takeTables? : Bytes → Option (List ReceivedTable × Bytes)
  | _ :: precision :: hi :: lo :: rest =>
    let size := (word16 hi lo).toNat
    if rest.length < size then none
    else (cutTables? precision 0 (rest.take size)).map (·, rest.drop size)
  | _ => none

/-- The tables in a fragment, if it is one that carries them, and its scan data. -/
def Fragment.contents? (f : Fragment) : Option (Option (List ReceivedTable) × Bytes) :=
  if f.offset = 0 ∧ 128 ≤ f.quality then (takeTables? f.payload).map fun p => (some p.1, p.2)
  else some (none, f.payload)

/-- Put data at its place. Octets before it that have not come yet are missing. -/
def lay (offset : Nat) (data : Bytes) (octets : List (Option UInt8)) : List (Option UInt8) :=
  octets.take offset ++ List.replicate (offset - octets.length) none
    ++ (data.map some ++ octets.drop (offset + data.length))

/-- What one packet has of a picture. -/
structure Share where
  tables : Option (List ReceivedTable)
  offset : Nat
  data : Bytes
  /-- No packet of the picture has a later part of it. -/
  last : Bool
  deriving DecidableEq, Repr

/-- Read the share of a packet. -/
def Share.read? (packet : Bytes) : Option Share := do
  let f ← Fragment.read? packet
  let (tables, data) ← f.contents?
  return ⟨tables, f.offset, data, f.rtp.marker⟩

/-- A picture as far as it has come. -/
structure Assembly where
  tables : Option (List ReceivedTable) := none
  /-- The scan data, with the octets that are missing. -/
  octets : List (Option UInt8) := []
  /-- The last packet has come. -/
  ended : Bool := false
  deriving DecidableEq, Repr

/-- What a receiver has of a picture. -/
structure ReceivedPicture where
  /-- The tables, if they travel in the stream. -/
  tables : Option (List ReceivedTable)
  data : Bytes
  deriving DecidableEq, Repr

namespace Assembly

/-- Take in one more share. -/
def add (a : Assembly) (s : Share) : Assembly :=
  ⟨s.tables.or a.tables, lay s.offset s.data a.octets, a.ended || s.last⟩

/-- The picture, if it is whole. -/
def whole? (a : Assembly) : Option ReceivedPicture :=
  if a.ended && a.octets.all (·.isSome) then some ⟨a.tables, a.octets.filterMap id⟩ else none

end Assembly

/-- The picture in some packets. -/
def reassemble? (packets : List Bytes) : Option ReceivedPicture := do
  let shares ← packets.mapM Share.read?
  (shares.foldl Assembly.add {}).whole?

end Jpeg

end RtspServer
