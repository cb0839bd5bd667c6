/-
RtspServer/Binary/Word.lean

Words in network byte order: the most significant octet comes first.  Reading
and writing undo each other in both directions, so a packet field can be
replaced by rewriting its octets and nothing else.
-/
import RtspServer.Text.Basic

namespace RtspServer

/-- The two octets of a 16-bit word. -/
def octets16 (w : UInt16) : Bytes := [UInt8.ofNat (w.toNat / 256), UInt8.ofNat w.toNat]

/-- The four octets of a 32-bit word. -/
def octets32 (w : UInt32) : Bytes :=
  [UInt8.ofNat (w.toNat / 16777216), UInt8.ofNat (w.toNat / 65536), UInt8.ofNat (w.toNat / 256),
    UInt8.ofNat w.toNat]

/-- The 16-bit word of two octets. -/
def word16 (a b : UInt8) : UInt16 := UInt16.ofNat (a.toNat * 256 + b.toNat)

/-- The 32-bit word of four octets. -/
def word32 (a b c d : UInt8) : UInt32 :=
  UInt32.ofNat (((a.toNat * 256 + b.toNat) * 256 + c.toNat) * 256 + d.toNat)

/-! ### Reading back -/

@[simp] theorem length_octets16 (w : UInt16) : (octets16 w).length = 2 := rfl

@[simp] theorem length_octets32 (w : UInt32) : (octets32 w).length = 4 := rfl

theorem word16_octets16 (w : UInt16) :
    word16 (UInt8.ofNat (w.toNat / 256)) (UInt8.ofNat w.toNat) = w := by
  apply UInt16.toNat_inj.mp
  have := w.toNat_lt
  simp only [word16, UInt16.toNat_ofNat', UInt8.toNat_ofNat']
  omega

theorem octets16_word16 (a b : UInt8) : octets16 (word16 a b) = [a, b] := by
  have ha := a.toNat_lt
  have hb := b.toNat_lt
  simp only [octets16, word16, List.cons.injEq, and_true, ← UInt8.toNat_inj,
    UInt16.toNat_ofNat', UInt8.toNat_ofNat']
  omega

theorem word32_octets32 (w : UInt32) :
    word32 (UInt8.ofNat (w.toNat / 16777216)) (UInt8.ofNat (w.toNat / 65536))
      (UInt8.ofNat (w.toNat / 256)) (UInt8.ofNat w.toNat) = w := by
  apply UInt32.toNat_inj.mp
  have := w.toNat_lt
  simp only [word32, UInt32.toNat_ofNat', UInt8.toNat_ofNat']
  omega

theorem octets32_word32 (a b c d : UInt8) : octets32 (word32 a b c d) = [a, b, c, d] := by
  have ha := a.toNat_lt
  have hb := b.toNat_lt
  have hc := c.toNat_lt
  have hd := d.toNat_lt
  simp only [octets32, word32, List.cons.injEq, and_true, ← UInt8.toNat_inj,
    UInt32.toNat_ofNat', UInt8.toNat_ofNat']
  omega

end RtspServer
