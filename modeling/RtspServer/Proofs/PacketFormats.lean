/-
RtspServer/Proofs/PacketFormats.lean

The headers of RTP packets and the sender reports, as octets.  Writing and
reading undo each other in both directions: what is written is read back,
whatever follows it, and what is read stands in the packet, octet by octet
(`packet_formats_inverse`).

So a header holds nothing but its fields, and a stamp that overwrites two of
them changes nothing else.  A sender report is read by its six words; the four
octets in front of them may say more than is written there, a padding bit or a
number of report blocks.
-/
import RtspServer.Proofs.Handover

namespace RtspServer

namespace Rtp

/-! ### Headers -/

/-- The first octet of a packet of version 2 holds the fields that are read from it, and nothing
else. -/
theorem first_of_fields {a : UInt8} (ha : a >>> 6 = 2) :
    0x80 ||| flag (a &&& 0x20 != 0) 0x20 ||| flag (a &&& 0x10 != 0) 0x10 |||
      (a &&& 0x0F &&& 0x0F) = a := by
  have hall : ∀ n : Fin 256, UInt8.ofNat n >>> 6 = 2 →
      0x80 ||| flag (UInt8.ofNat n &&& 0x20 != 0) 0x20 |||
        flag (UInt8.ofNat n &&& 0x10 != 0) 0x10 ||| (UInt8.ofNat n &&& 0x0F &&& 0x0F) =
          UInt8.ofNat n := by decide +kernel
  simpa only [UInt8.ofNat_toNat] using hall ⟨a.toNat, a.toNat_lt⟩ (by simpa using ha)

/-- The second octet holds the fields that are read from it, and nothing else. -/
theorem second_of_fields (b : UInt8) :
    flag (b &&& 0x80 != 0) 0x80 ||| (b &&& 0x7F &&& 0x7F) = b := by
  have hall : ∀ n : Fin 256, flag (UInt8.ofNat n &&& 0x80 != 0) 0x80 |||
      (UInt8.ofNat n &&& 0x7F &&& 0x7F) = UInt8.ofNat n := by decide +kernel
  simpa only [UInt8.ofNat_toNat] using hall ⟨b.toNat, b.toNat_lt⟩

/-- **What is read as a header stands at the front of the packet.** -/
theorem Header.append_of_read? {packet : Bytes} {h : Header} (hr : Header.read? packet = some h) :
    packet = h.write ++ packet.drop 12 := by
  unfold Header.read? at hr
  split at hr
  · next a b s₀ s₁ t₀ t₁ t₂ t₃ x₀ x₁ x₂ x₃ rest =>
    split at hr
    · next hversion =>
      obtain rfl := Option.some.inj hr
      simp only [Header.write, Header.first, Header.second, first_of_fields hversion,
        second_of_fields, octets16_word16, octets32_word32]
      rfl
    · cases hr
  · cases hr

/-- A packet without a whole header is not stamped. -/
theorem stamp_of_length_lt {packet : Bytes} (hlength : packet.length < 12) (sequence : UInt16)
    (ssrc : UInt32) : stamp packet sequence ssrc = packet := by
  unfold stamp
  split
  · simp only [List.length_cons] at hlength
    omega
  · rfl

end Rtp

namespace Rtcp

/-! ### Sender reports -/

namespace SenderReport

theorem takeWord?_octets32 (w : UInt32) (rest : Bytes) :
    takeWord? (octets32 w ++ rest) = some (w, rest) := by
  simp only [octets32, List.cons_append, List.nil_append, takeWord?, word32_octets32]

theorem takeWord?_eq_some_iff {input rest : Bytes} {w : UInt32} :
    takeWord? input = some (w, rest) ↔ input = octets32 w ++ rest := by
  refine ⟨fun h => ?_, fun h => h ▸ takeWord?_octets32 w rest⟩
  unfold takeWord? at h
  split at h
  · obtain ⟨rfl, rfl⟩ := Prod.mk.inj (Option.some.inj h)
    rw [octets32_word32]
    rfl
  · cases h

/-- The six words of a report. -/
def words (r : SenderReport) : Bytes := r.write.drop 4

/-- **What is read as a report**: six words behind four octets that give its type. -/
theorem read?_eq_some_iff {packet : Bytes} {r : SenderReport} :
    read? packet = some r ↔
      packetType? packet = some senderReportType ∧ ∃ rest, packet.drop 4 = r.words ++ rest := by
  have hwords : ∀ rest, r.words ++ rest = octets32 r.ssrc ++ (octets32 r.ntp.seconds ++
      (octets32 r.ntp.fraction ++ (octets32 r.rtpTimestamp ++ (octets32 r.packetCount ++
        (octets32 r.octetCount ++ rest))))) := fun _ => rfl
  constructor
  · intro h
    unfold read? at h
    split at h
    · next htype =>
      simp only [bind, Option.bind_eq_some_iff, Prod.exists, takeWord?_eq_some_iff] at h
      obtain ⟨ssrc, _, hssrc, seconds, _, rfl, fraction, _, rfl, stamp, _, rfl, packets, _, rfl,
        octets, rest, rfl, hr⟩ := h
      obtain rfl := Option.some.inj hr
      exact ⟨htype, rest, hssrc⟩
    · cases h
  · rintro ⟨htype, rest, hrest⟩
    rw [read?, if_pos htype, hrest, hwords]
    simp only [takeWord?_octets32, bind, Option.bind]

/-- A report is read back as it was, whatever follows it. -/
theorem read?_append (r : SenderReport) (rest : Bytes) : read? (r.write ++ rest) = some r :=
  read?_eq_some_iff.mpr ⟨rfl, rest, rfl⟩

theorem read?_write (r : SenderReport) : read? r.write = some r := by
  simpa using r.read?_append []

/-- The words that are read as a report stand in the packet. -/
theorem getElem?_of_read? {packet : Bytes} {r : SenderReport} (h : read? packet = some r) {k : Nat}
    (hfour : 4 ≤ k) (hend : k < 28) : packet[k]? = r.write[k]? := by
  obtain ⟨-, rest, hrest⟩ := read?_eq_some_iff.mp h
  have hlength : r.words.length = 24 := rfl
  obtain ⟨j, rfl⟩ := Nat.exists_eq_add_of_le hfour
  rw [← List.getElem?_drop, hrest, List.getElem?_append_left (by omega), words,
    List.getElem?_drop]

end SenderReport

end Rtcp

/-- **The formats of packets.** A header whose fields fit is read back from what is written, and
what is read stands in the packet; a stamp replaces the sequence number and the source, and leaves
a packet alone that is too short for them.  A sender report is read back from what is written, and
its words stand in the packet it is read from. -/
theorem packet_formats_inverse :
    (∀ (h : Rtp.Header) (payload : Bytes), h.sourceCount < 16 → h.payloadType < 128 →
      Rtp.Header.read? (h.write ++ payload) = some h) ∧
    (∀ (packet : Bytes) (h : Rtp.Header), Rtp.Header.read? packet = some h →
      12 ≤ packet.length ∧ h.write = packet.take 12 ∧
      ∀ (sequence : UInt16) (ssrc : UInt32),
        (Rtp.stamp packet sequence ssrc).length = packet.length ∧
        (∀ k, (k < 2 ∨ 4 ≤ k) → (k < 8 ∨ 12 ≤ k) →
          (Rtp.stamp packet sequence ssrc)[k]? = packet[k]?) ∧
        Rtp.Header.read? (Rtp.stamp packet sequence ssrc) = some { h with sequence, ssrc }) ∧
    (∀ (packet : Bytes) (sequence : UInt16) (ssrc : UInt32), packet.length < 12 →
      Rtp.stamp packet sequence ssrc = packet) ∧
    (∀ (r : Rtcp.SenderReport) (tail : Bytes),
      Rtcp.SenderReport.read? (r.write ++ tail) = some r ∧
      Rtcp.packetType? (r.write ++ tail) = some 200) ∧
    ∀ (packet : Bytes) (r : Rtcp.SenderReport), Rtcp.SenderReport.read? packet = some r →
      28 ≤ packet.length ∧ ∀ k, 4 ≤ k → k < 28 → r.write[k]? = packet[k]? := by
  refine ⟨fun h payload hcount hkind => Rtp.Header.read?_write hcount hkind payload, ?_,
    fun packet sequence ssrc hlength => Rtp.stamp_of_length_lt hlength sequence ssrc,
    fun r tail => ⟨Rtcp.SenderReport.read?_append r tail, rfl⟩, ?_⟩
  · intro packet h hr
    have hfront := Rtp.Header.append_of_read? hr
    have hlength := congrArg List.length hfront
    rw [List.length_append, Rtp.Header.length_write] at hlength
    refine ⟨hlength ▸ Nat.le_add_right _ _, ?_, fun sequence ssrc =>
      ⟨Rtp.length_stamp packet sequence ssrc,
        fun k hsequence hssrc => Rtp.getElem?_stamp packet sequence ssrc hsequence hssrc,
        Rtp.Header.read?_stamp hr sequence ssrc⟩⟩
    rw [hfront]
    rfl
  · intro packet r hr
    refine ⟨?_, fun k hfour hend => (Rtcp.SenderReport.getElem?_of_read? hr hfour hend).symm⟩
    obtain ⟨-, rest, hrest⟩ := Rtcp.SenderReport.read?_eq_some_iff.mp hr
    have hlength := congrArg List.length hrest
    rw [List.length_drop, List.length_append, Rtcp.SenderReport.words, List.length_drop,
      Rtcp.SenderReport.length_write] at hlength
    omega

/-- A header with every bit of its first two octets set. -/
def fullHeader : Rtp.Header := ⟨true, true, 15, true, 127, 0xFFFE, 3000, 0xAABBCCDD⟩

/-- A sender report with padding, that announces a report block and has two octets of it. -/
def paddedReport : Bytes :=
  [0xA1, 200, 0, 12, 0x43, 0x21, 0xFA, 0xDE, 0, 0, 0, 1, 0, 0, 0, 2, 0, 1, 0x5F, 0x90,
    0, 0, 0, 10, 0, 0, 0x36, 0xB0, 7, 7]

/-- The full header is stamped with a number that wraps around after it, two octets are too short
for a stamp, and the padded report is read by its words. -/
theorem packet_formats_full :
    (fullHeader.sourceCount < 16 ∧ fullHeader.payloadType < 128 ∧
      Rtp.Header.read? (fullHeader.write ++ [1, 2, 3]) = some fullHeader) ∧
    (fullHeader.write = (fullHeader.write ++ [1, 2, 3]).take 12 ∧
      Rtp.Header.read? (Rtp.stamp (fullHeader.write ++ [1, 2, 3]) 0xFFFF 4) =
        some { fullHeader with sequence := 0xFFFF, ssrc := 4 }) ∧
    Rtp.stamp [0x80, 0x60] 0xFFFF 4 = [0x80, 0x60] ∧
    ∃ r, Rtcp.SenderReport.read? paddedReport = some r ∧ r.write[0]? ≠ paddedReport[0]? ∧
      ∀ k, 4 ≤ k → k < 28 → r.write[k]? = paddedReport[k]? := by
  obtain ⟨hwritten, hread, hshort, -, hreport⟩ := packet_formats_inverse
  have hfull := hwritten fullHeader [1, 2, 3] (by decide) (by decide)
  obtain ⟨-, hfront, hstamp⟩ := hread _ _ hfull
  refine ⟨⟨by decide, by decide, hfull⟩, ⟨hfront, (hstamp 0xFFFF 4).2.2⟩,
    hshort _ _ _ (by decide), ?_⟩
  have hpadded : Rtcp.SenderReport.read? paddedReport =
      some ⟨0x4321FADE, ⟨1, 2⟩, 90000, 10, 14000⟩ := by decide
  exact ⟨_, hpadded, by decide, (hreport _ _ hpadded).2⟩

end RtspServer
