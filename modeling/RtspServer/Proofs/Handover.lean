/-
RtspServer/Proofs/Handover.lean

What goes out when a picture is sent.  A handover is a data packet given to a
transport, taken or not.  The handovers of a delivery are the packets of the
picture, in order, up to the first that is not taken
(`Delivery.isPrefix_handovers`).

Each handover is stamped with the number after the one before, and the counters
of the delivery advance by one handover at a time (`Delivery.Sent`).
-/
import RtspServer.Session.Fanout
import RtspServer.Proofs.Fragments
import RtspServer.Proofs.Standing
import Mathlib.Data.List.Nodup

namespace RtspServer

/-! ### Stamps -/

namespace Rtp

/-- A stamp touches nothing but the sequence number and the source. -/
theorem getElem?_stamp (packet : Bytes) (sequence : UInt16) (ssrc : UInt32) {k : Nat}
    (hsequence : k < 2 ∨ 4 ≤ k) (hssrc : k < 8 ∨ 12 ≤ k) :
    (stamp packet sequence ssrc)[k]? = packet[k]? := by
  unfold stamp
  split
  · -- by the place of the octet; those of the two fields are ruled out
    match k, hsequence, hssrc with
    | 0, _, _ | 1, _, _ | 4, _, _ | 5, _, _ | 6, _, _ | 7, _, _ => rfl
    | k + 12, _, _ => rfl
    | 2, h, _ | 3, h, _ => omega
    | 8, _, h | 9, _, h | 10, _, h | 11, _, h => omega
  · rfl

/-- The header of a stamped packet is the one it had, but for the sequence number and the
source. -/
theorem Header.read?_stamp {packet : Bytes} {header : Header}
    (h : Header.read? packet = some header) (sequence : UInt16) (ssrc : UInt32) :
    Header.read? (stamp packet sequence ssrc) = some { header with sequence, ssrc } := by
  unfold Header.read? at h
  split at h
  · split at h
    · next hversion =>
      obtain rfl := Option.some.inj h
      simp only [stamp, octets16, octets32, List.cons_append, List.nil_append, Header.read?,
        if_pos hversion, word16_octets16, word32_octets32]
    · cases h
  · cases h

end Rtp

namespace Jpeg

/-- Every packet begins with a whole header, which tells when the picture was taken. -/
theorem Packetizer.timestamp_packets {p : Packetizer} {picture : Picture} {packets : List Bytes}
    (hp : p.packets picture = .ok packets) :
    ∀ x ∈ packets, ∃ header, Rtp.Header.read? x = some header ∧
      header.timestamp = Rtp.videoClock picture.time := by
  obtain ⟨-, scan, -, -, -, rfl⟩ := Packetizer.packets_eq_ok_iff.mp hp
  intro x hx
  obtain ⟨i, hi⟩ := List.mem_iff_getElem?.mp hx
  rw [getElem?_fragmented, Option.map_eq_some_iff] at hi
  obtain ⟨fragment, -, rfl⟩ := hi
  exact ⟨_, rtpHeader_packet .., rfl⟩

theorem Packetizer.read?_packets {p : Packetizer} {picture : Picture} {packets : List Bytes}
    (hp : p.packets picture = .ok packets) :
    ∀ x ∈ packets, ∃ header, Rtp.Header.read? x = some header :=
  fun x hx => (timestamp_packets hp x hx).imp fun _ h => h.1

/-- The smallest picture that can be sent: the shortest head and one octet of scan data. -/
def tinyPicture : Picture := ⟨0, [0xFF, 0xD8, 0xFF, 0xDA, 0, 2, 7], 8, 8⟩

theorem packets_tinyPicture : ({ mtu_pos := Nat.succ_pos 1399 } : Packetizer).packets tinyPicture =
    .ok [packet { mtu_pos := Nat.succ_pos 1399 } tinyPicture [] 0 true [7]] := by
  cbv

end Jpeg

/-! ### Handovers and counters -/

/-- A data packet given to a transport: as it was cut, and as this receiver gets it. -/
structure Handover where
  packet : Bytes
  octets : Bytes
  deriving DecidableEq, Repr

/-- How many octets of some handovers come after the RTP headers. -/
def Handover.payload : List Handover → Nat
  | [] => 0
  | x :: rest => (x.packet.length - Rtp.headerSize) + payload rest

/-- Are handovers stamped one after the other, from a first number on? -/
def Handover.Consecutive (sequence : UInt16) (ssrc : UInt32) (l : List Handover) : Prop :=
  ∀ i x, l[i]? = some x → x.octets = Rtp.stamp x.packet (sequence + UInt16.ofNat i) ssrc

/-- The number on a packet. -/
def Handover.number? (x : Handover) : Option UInt16 := (Rtp.Header.read? x.octets).map (·.sequence)

/-- No two of 65536 packets in a row have the same number. -/
def Handover.NumbersApart (l : List Handover) : Prop :=
  ∀ i j x y, l[i]? = some x → l[j]? = some y → i < j → j < i + UInt16.size →
    x.number? ≠ y.number?

/-- What a receiver counts on: the number of the next packet, and how many packets and octets there
were. -/
structure Counters where
  sequence : UInt16
  packetCount : UInt32
  octetCount : UInt32
  deriving DecidableEq, Repr

/-- The counters after some handovers. -/
def Counters.advance (c : Counters) (l : List Handover) : Counters :=
  ⟨c.sequence + UInt16.ofNat l.length, c.packetCount + UInt32.ofNat l.length,
    c.octetCount + UInt32.ofNat (Handover.payload l)⟩

def Stream.counters (s : Stream) : Counters := ⟨s.sequence, s.packetCount, s.octetCount⟩

def Delivery.counters (d : Delivery) : Counters := ⟨d.sequence, d.packetCount, d.octetCount⟩

theorem Handover.payload_append (l l' : List Handover) :
    payload (l ++ l') = payload l + payload l' := by
  induction l with
  | nil => exact (Nat.zero_add _).symm
  | cons x rest ih => rw [List.cons_append, payload, ih, payload, Nat.add_assoc]

@[simp] theorem Counters.advance_nil (c : Counters) : c.advance [] = c := by
  simp [advance, Handover.payload]

theorem Counters.advance_append (c : Counters) (l l' : List Handover) :
    c.advance (l ++ l') = (c.advance l).advance l' := by
  simp only [advance, Handover.payload_append, List.length_append, UInt16.ofNat_add,
    UInt32.ofNat_add, UInt16.add_assoc, UInt32.add_assoc]

namespace Handover

theorem Consecutive.nil (sequence : UInt16) (ssrc : UInt32) : Consecutive sequence ssrc [] :=
  fun _ _ hx => nomatch hx

theorem Consecutive.append {sequence : UInt16} {ssrc : UInt32} {l l' : List Handover}
    (hl : Consecutive sequence ssrc l)
    (hl' : Consecutive (sequence + UInt16.ofNat l.length) ssrc l') :
    Consecutive sequence ssrc (l ++ l') := by
  intro i x hx
  -- the second part is numbered on from where the first one ends
  rcases Nat.lt_or_ge i l.length with hi | hi
  · exact hl i x (by rwa [List.getElem?_append_left hi] at hx)
  · rw [List.getElem?_append_right hi] at hx
    rw [hl' _ x hx, UInt16.add_assoc, ← UInt16.ofNat_add, Nat.add_sub_cancel' hi]

/-- The header of a packet that was stamped as one of many. -/
theorem Consecutive.read? {sequence : UInt16} {ssrc : UInt32} {l : List Handover}
    (hl : Consecutive sequence ssrc l) {i : Nat} {x : Handover} (hx : l[i]? = some x)
    (hread : ∃ header, Rtp.Header.read? x.packet = some header) :
    ∃ header, Rtp.Header.read? x.octets = some header ∧
      header.sequence = sequence + UInt16.ofNat i ∧ header.ssrc = ssrc := by
  obtain ⟨header, hread⟩ := hread
  have hstamped := Rtp.Header.read?_stamp hread (sequence + UInt16.ofNat i) ssrc
  rw [← hl i x hx] at hstamped
  exact ⟨_, hstamped, rfl, rfl⟩

/-- Numbers that go up by one are apart until they wrap around. -/
theorem Consecutive.numbersApart {sequence : UInt16} {ssrc : UInt32} {l : List Handover}
    (hl : Consecutive sequence ssrc l)
    (hread : ∀ x ∈ l, ∃ header, Rtp.Header.read? x.packet = some header) : NumbersApart l := by
  intro i j x y hx hy hlt hnear hsame
  obtain ⟨header, hreadx, hi, -⟩ := hl.read? hx (hread x (List.mem_of_getElem? hx))
  obtain ⟨header', hready, hj, -⟩ := hl.read? hy (hread y (List.mem_of_getElem? hy))
  simp only [number?, hreadx, hready, Option.map_some, Option.some.injEq, hi, hj] at hsame
  have hnat := congrArg UInt16.toNat hsame
  simp only [UInt16.toNat_add, UInt16.toNat_ofNat'] at hnat
  simp only [UInt16.size] at hnear
  omega

end Handover

namespace Delivery

/-! ### Sending from one delivery -/

/-- The packets given to the transport: all up to the first that is not taken. -/
def handovers (state : Delivery × Media) : List Bytes → List Handover
  | [] => []
  | packet :: rest =>
    if state.1.failed then []
    else ⟨packet, state.1.stamped packet⟩ :: handovers (sendPacket state packet) rest

/-- What has become of a delivery `d` by some handovers. -/
structure Sent (d d' : Delivery) (l : List Handover) : Prop where
  conn : d'.conn = d.conn
  transport : d'.transport = d.transport
  ssrc : d'.ssrc = d.ssrc
  counters : d'.counters = d.counters.advance l
  stamped : Handover.Consecutive d.sequence d.ssrc l

theorem Sent.refl (d : Delivery) : d.Sent d [] :=
  ⟨rfl, rfl, rfl, (Counters.advance_nil _).symm, .nil _ _⟩

theorem Sent.trans {a b c : Delivery} {l l' : List Handover} (hab : a.Sent b l)
    (hbc : b.Sent c l') : a.Sent c (l ++ l') := by
  refine ⟨hbc.conn.trans hab.conn, hbc.transport.trans hab.transport, hbc.ssrc.trans hab.ssrc,
    ?_, ?_⟩
  · rw [hbc.counters, hab.counters, Counters.advance_append]
  · have hsequence : b.sequence = a.sequence + UInt16.ofNat l.length :=
      congrArg Counters.sequence hab.counters
    exact hab.stamped.append (hsequence ▸ hab.ssrc ▸ hbc.stamped)

/-- A report is no data packet. -/
theorem sent_sendReport (clock : UInt32) (wall : Rtcp.NtpTime) (d : Delivery) (m : Media) :
    d.Sent (d.sendReport clock wall m).1 [] := by
  unfold sendReport
  split
  · split
    · exact ⟨rfl, rfl, rfl, (Counters.advance_nil _).symm, .nil _ _⟩
    · exact .refl d
  · exact .refl d

/-- A delivery does not fail by its report. -/
theorem failed_sendReport (clock : UInt32) (wall : Rtcp.NtpTime) (d : Delivery) (m : Media) :
    (d.sendReport clock wall m).1.failed = d.failed := by
  unfold sendReport
  (repeat' split) <;> rfl

/-- A counted packet is one handover. -/
theorem counters_count (d : Delivery) (packet : Bytes) :
    (d.count packet).counters = d.counters.advance [⟨packet, d.stamped packet⟩] := by
  simp [Counters.advance, Handover.payload, counters, count]

/-- One packet is stamped with the number that is next. -/
theorem consecutive_stamped (d : Delivery) (packet : Bytes) :
    Handover.Consecutive d.sequence d.ssrc [⟨packet, d.stamped packet⟩] := by
  intro i x hx
  rcases i with - | i
  · obtain rfl := Option.some.inj hx
    simp [stamped]
  · cases hx

/-- Once a packet was not taken, nothing more is sent. -/
theorem foldl_sendPacket_of_failed {state : Delivery × Media} (hf : state.1.failed = true)
    (packets : List Bytes) : packets.foldl sendPacket state = state := by
  induction packets with
  | nil => rfl
  | cons packet rest ih =>
    have hstep : sendPacket state packet = state := by simp [sendPacket, hf]
    rw [List.foldl_cons, hstep, ih]

/-- One packet, taken or not, counts. -/
theorem sent_sendPacket {state : Delivery × Media} (hf : state.1.failed = false)
    (packet : Bytes) :
    state.1.Sent (sendPacket state packet).1 [⟨packet, state.1.stamped packet⟩] := by
  obtain ⟨d, m⟩ := state
  have hf : d.failed = false := hf
  -- the counters go on whether the packet is taken or not
  simp only [sendPacket, hf, Bool.false_eq_true, if_false]
  split
  · exact ⟨rfl, rfl, rfl, counters_count d packet, consecutive_stamped d packet⟩
  · exact ⟨rfl, rfl, rfl, counters_count d packet, consecutive_stamped d packet⟩

theorem sent_foldl_sendPacket (packets : List Bytes) (state : Delivery × Media) :
    state.1.Sent (packets.foldl sendPacket state).1 (handovers state packets) := by
  induction packets generalizing state with
  | nil => exact .refl _
  | cons packet rest ih =>
    cases hf : state.1.failed with
    | true =>
      rw [foldl_sendPacket_of_failed hf, handovers, if_pos hf]
      exact .refl _
    | false =>
      rw [handovers, if_neg (by simp [hf])]
      exact (sent_sendPacket hf packet).trans (ih _)

/-- **No packet is left out or sent out of order**, and none is left over unless one is not
taken. -/
theorem isPrefix_handovers (packets : List Bytes) (state : Delivery × Media) :
    (handovers state packets).map (·.packet) <+: packets ∧
      ((packets.foldl sendPacket state).1.failed = false →
        (handovers state packets).map (·.packet) = packets) := by
  induction packets generalizing state with
  | nil => exact ⟨List.prefix_rfl, fun _ => rfl⟩
  | cons packet rest ih =>
    cases hf : state.1.failed with
    | true =>
      rw [foldl_sendPacket_of_failed hf, handovers, if_pos hf]
      exact ⟨List.nil_prefix, fun h => absurd (hf.symm.trans h) nofun⟩
    | false =>
      obtain ⟨hbegin, hall⟩ := ih (sendPacket state packet)
      rw [handovers, if_neg (by simp [hf]), List.map_cons, List.foldl_cons]
      exact ⟨(List.prefix_cons_inj packet).mpr hbegin, fun h => by rw [hall h]⟩

/-! ### Sending from all deliveries -/

section SendAll

variable (clock : UInt32) (wall : Rtcp.NtpTime) (packets : List Bytes)

/-- What is handed over for one connection when packets are sent from all deliveries. -/
def handedTo (conn : ConnId) : List Delivery → Media → List Handover
  | [], _ => []
  | d :: rest, m =>
    (if d.conn = conn then handovers (d.sendReport clock wall m) packets else []) ++
      handedTo conn rest (d.send clock wall packets m).2

theorem sent_send (d : Delivery) (m : Media) :
    d.Sent (d.send clock wall packets m).1 (handovers (d.sendReport clock wall m) packets) :=
  (sent_sendReport clock wall d m).trans (sent_foldl_sendPacket packets _)

theorem map_conn_sendAll (deliveries : List Delivery) (m : Media) :
    (sendAll clock wall packets deliveries m).1.map (·.conn) = deliveries.map (·.conn) := by
  induction deliveries generalizing m with
  | nil => rfl
  | cons d rest ih =>
    simp only [sendAll, List.map_cons]
    rw [ih, (sent_send clock wall packets d m).conn]

theorem handedTo_eq_nil {conn : ConnId} {deliveries : List Delivery}
    (hc : ∀ d ∈ deliveries, d.conn ≠ conn) (m : Media) :
    handedTo clock wall packets conn deliveries m = [] := by
  induction deliveries generalizing m with
  | nil => rfl
  | cons d rest ih =>
    rw [handedTo, if_neg (hc d List.mem_cons_self),
      ih (fun e he => hc e (List.mem_cons_of_mem _ he))]
    rfl

/-- With one delivery for each connection, what is handed over for a connection is what its
delivery hands over. -/
theorem exists_sent {deliveries : List Delivery} (hnodup : (deliveries.map (·.conn)).Nodup)
    (m : Media) {d : Delivery} (hd : d ∈ deliveries) :
    ∃ d' ∈ (sendAll clock wall packets deliveries m).1,
      d.Sent d' (handedTo clock wall packets d.conn deliveries m) ∧
      (handedTo clock wall packets d.conn deliveries m).map (·.packet) <+: packets := by
  induction deliveries generalizing m with
  | nil => cases hd
  | cons e rest ih =>
    rw [List.map_cons, List.nodup_cons] at hnodup
    obtain ⟨hhead, hrest⟩ := hnodup
    rcases List.mem_cons.mp hd with rfl | hd
    · have hnone : ∀ e ∈ rest, e.conn ≠ d.conn := fun e he hc =>
        hhead (List.mem_map.mpr ⟨e, he, hc⟩)
      rw [handedTo, if_pos rfl, handedTo_eq_nil _ _ _ hnone, List.append_nil]
      exact ⟨_, List.mem_cons_self, sent_send clock wall packets d m,
        (isPrefix_handovers packets _).1⟩
    · -- the first delivery is to another connection
      have hne : e.conn ≠ d.conn := fun hc => hhead (List.mem_map.mpr ⟨d, hd, hc.symm⟩)
      rw [handedTo, if_neg hne, List.nil_append]
      obtain ⟨d', hd', hsent⟩ := ih hrest (e.send clock wall packets m).2 hd
      exact ⟨d', List.mem_cons_of_mem _ hd', hsent⟩

end SendAll

end Delivery

end RtspServer
