/-
RtspServer/Rtp/Header.lean

The fixed header of an RTP packet (RFC 3550, section 5.1), twelve octets:

    version 2, padding, extension, source count | marker, payload type | sequence
    timestamp
    synchronization source

A packet is made once with sequence and source left at zero; `stamp` then fills
in these two fields for each receiver and touches nothing else.
-/
import RtspServer.Binary.Word

namespace RtspServer

namespace Rtp

/-- The size of the fixed header. -/
def headerSize : Nat := 12

/-- The fields of the fixed header. -/
structure Header where
  padding : Bool := false
  extension : Bool := false
  /-- The number of contributing sources, four bits on the wire. -/
  sourceCount : UInt8 := 0
  /-- Set on the last packet of a frame. -/
  marker : Bool := false
  /-- The kind of media, seven bits on the wire. -/
  payloadType : UInt8 := 0
  sequence : UInt16 := 0
  /-- The media clock. -/
  timestamp : UInt32 := 0
  ssrc : UInt32 := 0
  deriving DecidableEq, Repr

/-- A bit at a place, or nothing. -/
def flag (b : Bool) (place : UInt8) : UInt8 := if b then place else 0

namespace Header

/-- The first octet. -/
def first (h : Header) : UInt8 :=
  0x80 ||| flag h.padding 0x20 ||| flag h.extension 0x10 ||| (h.sourceCount &&& 0x0F)

/-- The second octet. -/
def second (h : Header) : UInt8 := flag h.marker 0x80 ||| (h.payloadType &&& 0x7F)

/-- The twelve octets. -/
def write (h : Header) : Bytes :=
  h.first :: h.second :: octets16 h.sequence ++ octets32 h.timestamp ++ octets32 h.ssrc

/-- The header at the front of a packet of at least twelve octets of version 2. -/
def read? : Bytes → Option Header
  | a :: b :: s₀ :: s₁ :: t₀ :: t₁ :: t₂ :: t₃ :: x₀ :: x₁ :: x₂ :: x₃ :: _ =>
    if a >>> 6 = 2 then
      some {
        padding := a &&& 0x20 != 0
        extension := a &&& 0x10 != 0
        sourceCount := a &&& 0x0F
        marker := b &&& 0x80 != 0
        payloadType := b &&& 0x7F
        sequence := word16 s₀ s₁
        timestamp := word32 t₀ t₁ t₂ t₃
        ssrc := word32 x₀ x₁ x₂ x₃ }
    else none
  | _ => none

/-- A header is as long as it says. -/
@[simp] theorem length_write (h : Header) : h.write.length = headerSize := rfl

end Header

/-! ### Reading back -/

/-- The fields that share the first octet. -/
theorem fields_first (padding extension : Bool) {count : UInt8} (hcount : count < 16) :
    let a := 0x80 ||| flag padding 0x20 ||| flag extension 0x10 ||| (count &&& 0x0F)
    a >>> 6 = 2 ∧ (a &&& 0x20 != 0) = padding ∧ (a &&& 0x10 != 0) = extension ∧
      a &&& 0x0F = count := by
  -- there are only sixty-four such octets
  have hall : ∀ p e : Bool, ∀ n : Fin 16,
      let a := 0x80 ||| flag p 0x20 ||| flag e 0x10 ||| (UInt8.ofNat n &&& 0x0F)
      a >>> 6 = 2 ∧ (a &&& 0x20 != 0) = p ∧ (a &&& 0x10 != 0) = e ∧
        a &&& 0x0F = UInt8.ofNat n := by decide
  simpa only [UInt8.ofNat_toNat] using hall padding extension ⟨count.toNat, hcount⟩

/-- The fields that share the second octet. -/
theorem fields_second (marker : Bool) {kind : UInt8} (hkind : kind < 128) :
    let b := flag marker 0x80 ||| (kind &&& 0x7F)
    (b &&& 0x80 != 0) = marker ∧ b &&& 0x7F = kind := by
  have hall : ∀ m : Bool, ∀ n : Fin 128,
      let b := flag m 0x80 ||| (UInt8.ofNat n &&& 0x7F)
      (b &&& 0x80 != 0) = m ∧ b &&& 0x7F = UInt8.ofNat n := by decide
  simpa only [UInt8.ofNat_toNat] using hall marker ⟨kind.toNat, hkind⟩

/-- A header whose fields fit reads back, whatever follows it. -/
theorem Header.read?_write {h : Header} (hcount : h.sourceCount < 16) (hkind : h.payloadType < 128)
    (rest : Bytes) : Header.read? (h.write ++ rest) = some h := by
  obtain ⟨hversion, hpadding, hextension, hsources⟩ :=
    fields_first h.padding h.extension hcount
  obtain ⟨hmarker, htype⟩ := fields_second h.marker hkind
  simp only [Header.write, octets16, octets32, List.cons_append, List.nil_append, Header.read?,
    Header.first, Header.second]
  rw [if_pos hversion, hpadding, hextension, hsources, hmarker, htype, word16_octets16,
    word32_octets32, word32_octets32]

/-- Put a sequence number and a source into a packet. Packets without a whole header stay. -/
def stamp (packet : Bytes) (sequence : UInt16) (ssrc : UInt32) : Bytes :=
  match packet with
  | a :: b :: _ :: _ :: t₀ :: t₁ :: t₂ :: t₃ :: _ :: _ :: _ :: _ :: rest =>
    a :: b :: (octets16 sequence ++ t₀ :: t₁ :: t₂ :: t₃ :: (octets32 ssrc ++ rest))
  | _ => packet

/-- Stamping keeps the size of a packet. -/
@[simp] theorem length_stamp (packet : Bytes) (sequence : UInt16) (ssrc : UInt32) :
    (stamp packet sequence ssrc).length = packet.length := by
  unfold stamp
  split
  · simp [octets16, octets32]
  · rfl

/-- Milliseconds in the units of the 90 kHz video clock, which wraps around. -/
def videoClock (ms : UInt32) : UInt32 := ms * 90

end Rtp

end RtspServer
