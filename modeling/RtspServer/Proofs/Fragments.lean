/-
RtspServer/Proofs/Fragments.lean

How scan data is cut.  The fragments of a picture, one after the other, are its
scan data (`flatten_fragments`), and none is empty.  The first leaves room for
the table header; the others are as large as the limit allows.

A packet reads back as the headers it was made with and what follows them
(`Fragment.read?_packet`): the offset of a packet is the number of octets in the
fragments before its own, which twenty-four bits always hold.
-/
import RtspServer.Jpeg.Depacketizer
import RtspServer.Jpeg.Packetizer
import RtspServer.Proofs.Anatomy
import RtspServer.Transport.Frame
import Mathlib.Algebra.Order.Floor.Div
import Mathlib.GroupTheory.GroupAction.Ring

namespace RtspServer

namespace Jpeg

/-! ### Pictures that can be cut -/

section Cutting

variable (p : Packetizer)

/-- The table header that travels with a picture, if one does. -/
def Packetizer.tableOctets (tables : List QuantTable) : Bytes :=
  if 128 ≤ p.quality ∧ tables ≠ [] then tableHeader tables else []

/-- What it takes to cut a picture, and what comes of it. -/
theorem Packetizer.packets_eq_ok_iff {p : Packetizer} {picture : Picture} {packets : List Bytes} :
    p.packets picture = .ok packets ↔
      (picture.width ≤ maxSide ∧ picture.height ≤ maxSide) ∧
        ∃ scan, Scan.ofPicture picture.data = .ok scan ∧ scan.data ≠ [] ∧
          scan.data.length ≤ maxScan ∧
          fragmented p picture (p.tableOctets scan.tables) scan.data = packets := by
  unfold Packetizer.packets
  by_cases hsides : maxSide < picture.width ∨ maxSide < picture.height
  · rw [if_pos hsides]
    refine ⟨nofun, fun h => ?_⟩
    exact (hsides.elim (UInt16.not_lt.mpr h.1.1) (UInt16.not_lt.mpr h.1.2)).elim
  rw [if_neg hsides]
  have hsmall : picture.width ≤ maxSide ∧ picture.height ≤ maxSide :=
    ⟨UInt16.not_lt.mp fun h => hsides (Or.inl h), UInt16.not_lt.mp fun h => hsides (Or.inr h)⟩
  rcases hscan : Scan.ofPicture picture.data with fault | scan
  · simp
  · by_cases hempty : scan.data = []
    · simp [hempty]
    · by_cases hlong : maxScan < scan.data.length
      · simp [hempty, hlong, Nat.not_le.mpr hlong]
      · simp [hempty, hlong, hsmall, Nat.not_lt.mp hlong, Packetizer.tableOctets]

/-! ### Pieces -/

variable {size : Nat} (hsize : 0 < size)

include hsize

theorem pieces_of_ne_nil {data : Bytes} (hdata : data ≠ []) :
    pieces size data = data.take size :: pieces size (data.drop size) := by
  rw [pieces, dif_neg (by simp [hdata, Nat.ne_of_gt hsize])]

omit hsize in
theorem pieces_nil (size : Nat) : pieces size [] = [] := by rw [pieces, dif_pos (Or.inl rfl)]

/-- What holds of no data, and of data if it holds without the first piece, holds of all data. -/
theorem pieces_induction {P : Bytes → Prop} (hnil : P [])
    (hstep : ∀ data, data ≠ [] → P (data.drop size) → P data) (data : Bytes) : P data := by
  induction hn : data.length using Nat.strong_induction_on generalizing data with
  | _ n ih =>
    by_cases hdata : data = []
    · exact hdata ▸ hnil
    · have hpos := List.length_pos_iff.mpr hdata
      refine hstep data hdata (ih _ ?_ _ rfl)
      rw [List.length_drop]
      omega

theorem flatten_pieces (data : Bytes) : (pieces size data).flatten = data := by
  induction data using pieces_induction hsize with
  | hnil => rw [pieces_nil, List.flatten_nil]
  | hstep data hdata ih =>
    rw [pieces_of_ne_nil hsize hdata, List.flatten_cons, ih, List.take_append_drop]

theorem of_mem_pieces {data piece : Bytes} (h : piece ∈ pieces size data) :
    piece ≠ [] ∧ piece.length ≤ size := by
  induction data using pieces_induction hsize with
  | hnil =>
    rw [pieces_nil] at h
    cases h
  | hstep data hdata ih =>
    rw [pieces_of_ne_nil hsize hdata] at h
    rcases List.mem_cons.mp h with rfl | h
    · exact ⟨by simp [hdata, Nat.ne_of_gt hsize], List.length_take_le ..⟩
    · exact ih h

/-- There are as many pieces as it takes. -/
theorem length_pieces (data : Bytes) : (pieces size data).length = data.length ⌈/⌉ size := by
  rw [Nat.ceilDiv_eq_add_pred_div]
  induction data using pieces_induction hsize with
  | hnil =>
    rw [pieces_nil, List.length_nil, List.length_nil, Nat.zero_add]
    exact (Nat.div_eq_of_lt (Nat.sub_lt hsize Nat.one_pos)).symm
  | hstep data hdata ih =>
    have hpos := List.length_pos_iff.mpr hdata
    rw [pieces_of_ne_nil hsize hdata, List.length_cons, ih, List.length_drop]
    rcases Nat.le_total data.length size with hle | hle
    · -- this is the only piece
      have hone : data.length + size - 1 = (data.length - 1) + size := by omega
      rw [hone, Nat.add_div_right _ hsize, Nat.div_eq_of_lt (by omega : data.length - 1 < size),
        Nat.div_eq_of_lt (by omega : data.length - size + size - 1 < size)]
    · have hmore : data.length + size - 1 = (data.length - size + size - 1) + size := by omega
      rw [hmore, Nat.add_div_right _ hsize]

end Cutting

/-! ### Fragments -/

section Fragments

variable (p : Packetizer) (picture : Picture) (tables data : Bytes)

/-- The scan data that fits the first packet. -/
def Packetizer.room : Nat := max (p.mtu - tables.length) 1

/-- The fragments of scan data behind a table header. -/
def Packetizer.fragments : List Bytes :=
  data.take (p.room tables) :: pieces p.mtu (data.drop (p.room tables))

theorem Packetizer.room_pos : 0 < p.room tables :=
  Nat.lt_of_lt_of_le Nat.one_pos (Nat.le_max_right ..)

theorem Packetizer.flatten_fragments : (p.fragments tables data).flatten = data := by
  rw [Packetizer.fragments, List.flatten_cons, flatten_pieces p.mtu_pos, List.take_append_drop]

theorem Packetizer.of_mem_fragments {data fragment : Bytes} (hdata : data ≠ [])
    (h : fragment ∈ p.fragments tables data) : fragment ≠ [] := by
  rcases List.mem_cons.mp h with rfl | h
  · simp [hdata, Nat.ne_of_gt (p.room_pos tables)]
  · exact (of_mem_pieces p.mtu_pos h).1

/-- The first fragment fits its room, and each other one the limit. -/
theorem Packetizer.length_fragment {i : Nat} {fragment : Bytes}
    (h : (p.fragments tables data)[i]? = some fragment) :
    (if i = 0 then tables else []).length + fragment.length ≤ max p.mtu (tables.length + 1) := by
  rcases i with - | i
  · obtain rfl : data.take (p.room tables) = fragment := Option.some.inj h
    have htake := List.length_take_le (p.room tables) data
    simp only [if_true]
    unfold Packetizer.room at htake ⊢
    omega
  · have hpiece := of_mem_pieces p.mtu_pos (List.mem_of_getElem? h)
    have hmax : p.mtu ≤ max p.mtu (tables.length + 1) := Nat.le_max_left ..
    simpa using Nat.le_trans hpiece.2 hmax

/-- How many fragments there are: one more than it takes for what the first one leaves. -/
theorem Packetizer.length_fragments :
    (p.fragments tables data).length =
      if data.length ≤ p.room tables then 1
      else 1 + (data.length - p.room tables) ⌈/⌉ p.mtu := by
  rw [Packetizer.fragments, List.length_cons, length_pieces p.mtu_pos, List.length_drop,
    Nat.add_comm]
  split
  · next hle => rw [Nat.sub_eq_zero_of_le hle, zero_ceilDiv, Nat.add_zero]
  · rfl

/-- Without a table header all fragments have the same room. -/
theorem Packetizer.length_fragments_nil {data : Bytes} (hdata : data ≠ []) :
    (p.fragments [] data).length = data.length ⌈/⌉ p.mtu := by
  have hroom : p.room [] = p.mtu := Nat.max_eq_left p.mtu_pos
  rw [← length_pieces p.mtu_pos, pieces_of_ne_nil p.mtu_pos hdata, Packetizer.fragments, hroom]

/-! ### Packets -/

/-- Where the fragment at a place belongs: behind all fragments before it. -/
def offsetOf (fragments : List Bytes) (i : Nat) : Nat := (fragments.take i).flatten.length

theorem offsetOf_cons_succ (fragment : Bytes) (rest : List Bytes) (i : Nat) :
    offsetOf (fragment :: rest) (i + 1) = fragment.length + offsetOf rest i := by
  simp [offsetOf]

theorem offsetOf_succ {fragments : List Bytes} {i : Nat} {fragment : Bytes}
    (h : fragments[i]? = some fragment) :
    offsetOf fragments (i + 1) = offsetOf fragments i + fragment.length := by
  simp [offsetOf, List.take_add_one, h]

theorem offsetOf_le {fragments : List Bytes} (i : Nat) :
    offsetOf fragments i ≤ fragments.flatten.length := by
  conv_rhs => rw [← List.take_append_drop i fragments, List.flatten_append, List.length_append]
  exact Nat.le_add_right ..

/-- No fragment is empty, so every one belongs behind those before it. -/
theorem offsetOf_lt {fragments : List Bytes} (hne : [] ∉ fragments) {i : Nat}
    (hi : i < fragments.length) :
    offsetOf fragments i < fragments.flatten.length ∧
      ∀ j < i, offsetOf fragments j < offsetOf fragments i := by
  have hstep : ∀ j < fragments.length, offsetOf fragments j < offsetOf fragments (j + 1) := by
    intro j hj
    have hmem : fragments[j] ∈ fragments := List.getElem_mem hj
    rw [offsetOf_succ (List.getElem?_eq_getElem hj)]
    have : fragments[j].length ≠ 0 := fun h => hne (List.length_eq_zero_iff.mp h ▸ hmem)
    omega
  refine ⟨Nat.lt_of_lt_of_le (hstep i hi) (offsetOf_le _), fun j hj => ?_⟩
  induction i, hj using Nat.le_induction with
  | base => exact hstep j (Nat.lt_of_succ_lt hi)
  | succ i _ ih =>
    have hi' := Nat.lt_of_succ_lt hi
    exact Nat.lt_trans (ih hi') (hstep i hi')

theorem getElem?_packetsFrom (offset : Nat) (fragments : List Bytes) (i : Nat) :
    (packetsFrom p picture offset fragments)[i]? = fragments[i]?.map fun fragment =>
      packet p picture [] (offset + offsetOf fragments i) (i + 1 == fragments.length) fragment := by
  induction fragments generalizing offset i with
  | nil => rfl
  | cons fragment rest ih =>
    rcases i with - | i
    · rcases rest with - | ⟨next, rest⟩ <;> simp [packetsFrom, offsetOf]
    · simp only [packetsFrom, List.getElem?_cons_succ, ih, offsetOf_cons_succ, Nat.add_assoc]
      simp

/-- **The packet at a place** carries the fragment at that place. -/
theorem getElem?_fragmented (i : Nat) :
    (fragmented p picture tables data)[i]? = (p.fragments tables data)[i]?.map fun fragment =>
      packet p picture (if i = 0 then tables else []) (offsetOf (p.fragments tables data) i)
        (i + 1 == (p.fragments tables data).length) fragment := by
  show (packet p picture tables 0 _ _ :: packetsFrom p picture _ _)[i]? = _
  rcases i with - | i
  · -- the first packet is the last one if nothing is left for others
    have hlast : ∀ rest : List Bytes, rest.isEmpty = (0 + 1 == rest.length + 1) := by
      intro rest
      cases rest <;> rfl
    show some (packet p picture tables 0 (pieces p.mtu (data.drop (p.room tables))).isEmpty _) = _
    rw [hlast]
    rfl
  · rw [List.getElem?_cons_succ, getElem?_packetsFrom]
    simp only [Packetizer.fragments, List.getElem?_cons_succ, offsetOf_cons_succ]
    simp [Packetizer.room]

theorem length_fragmented :
    (fragmented p picture tables data).length = (p.fragments tables data).length := by
  apply le_antisymm <;> refine Nat.le_of_not_lt fun h => ?_
  · have := getElem?_fragmented p picture tables data (p.fragments tables data).length
    rw [List.getElem?_eq_getElem h, List.getElem?_eq_none (Nat.le_refl _)] at this
    cases this
  · have := getElem?_fragmented p picture tables data (fragmented p picture tables data).length
    rw [List.getElem?_eq_none (Nat.le_refl _), List.getElem?_eq_getElem h] at this
    cases this

/-- The header that every packet of a picture begins with. -/
def rtpHeader (last : Bool) : Rtp.Header where
  payloadType := payloadType
  timestamp := Rtp.videoClock picture.time
  marker := last

theorem rtpHeader_packet (extra : Bytes) (offset : Nat) (last : Bool) (fragment : Bytes) :
    Rtp.Header.read? (packet p picture extra offset last fragment) =
      some (rtpHeader picture last) := by
  have hcount : (0 : UInt8) < 16 := by decide
  have hkind : payloadType < 128 := by decide
  exact Rtp.Header.read?_write (h := rtpHeader picture last) hcount hkind _

/-- A packet reads back as what it was made of, as long as the offset fits its field. -/
theorem Fragment.read?_packet {offset : Nat} (hoffset : offset ≤ maxScan) (extra : Bytes)
    (last : Bool) (fragment : Bytes) :
    Fragment.read? (packet p picture extra offset last fragment) = some {
      rtp := rtpHeader picture last
      specific := 0
      offset := offset
      kind := p.kind
      quality := p.quality
      width := UInt8.ofNat (picture.width.toNat / 8)
      height := UInt8.ofNat (picture.height.toNat / 8)
      payload := extra ++ fragment } := by
  have hbelow : offset < 16777216 := Nat.lt_succ_of_le hoffset
  have hnat : (UInt32.ofNat (offset % 16777216)).toNat = offset := by
    rw [Nat.mod_eq_of_lt hbelow, UInt32.toNat_ofNat_of_lt' (Nat.lt_trans hbelow (by decide))]
  -- of the four octets written the first is no part of the offset
  have hspecific : UInt8.ofNat (offset / 16777216) = 0 := by
    rw [Nat.div_eq_of_lt hbelow]
    rfl
  have hword : (word32 0 (UInt8.ofNat (offset / 65536)) (UInt8.ofNat (offset / 256))
      (UInt8.ofNat offset)).toNat = offset := by
    simp only [word32, UInt32.toNat_ofNat', UInt8.toNat_ofNat', UInt8.toNat_zero]
    omega
  have hdrop : (packet p picture extra offset last fragment).drop Rtp.headerSize =
      fragmentHeader p picture offset ++ (extra ++ fragment) := by
    show ((rtpHeader picture last).write ++ _).drop Rtp.headerSize = _
    rw [← Rtp.Header.length_write (rtpHeader picture last), List.drop_left]
  unfold Fragment.read?
  rw [rtpHeader_packet, hdrop, fragmentHeader]
  simp only [octets32, List.cons_append, List.nil_append, hnat, hspecific, hword]

theorem length_packet (extra : Bytes) (offset : Nat) (last : Bool) (fragment : Bytes) :
    (packet p picture extra offset last fragment).length =
      20 + (extra.length + fragment.length) := by
  show ((rtpHeader picture last).write ++ (fragmentHeader p picture offset ++ _)).length = _
  rw [List.length_append, List.length_append, List.length_append, Rtp.Header.length_write]
  exact Nat.add_assoc 12 8 _ ▸ rfl

/-! ### Table headers -/

theorem length_tableHeader (tables : List QuantTable) :
    (tableHeader tables).length = 4 + (tables.flatMap (·.coefficients)).length := by
  simp only [tableHeader, List.length_cons, List.length_append, length_octets16]

/-- At most two tables take at most 256 octets. -/
theorem length_coefficients_le {tables : List QuantTable} (hfits : ∀ t ∈ tables, t.Fits)
    (hfew : tables.length ≤ 2) : (tables.flatMap (·.coefficients)).length ≤ 256 := by
  have hsize : ∀ t ∈ tables, t.coefficients.length ≤ 128 := by
    intro t ht
    rw [hfits t ht, coefficientSize]
    split <;> decide
  rcases tables with - | ⟨s, - | ⟨t, rest⟩⟩
  · decide
  · have hs := hsize s List.mem_cons_self
    rw [List.flatMap_singleton]
    omega
  · obtain rfl : rest = [] := List.length_eq_zero_iff.mp (by simpa using hfew)
    have hs := hsize s List.mem_cons_self
    have ht := hsize t (List.mem_cons_of_mem _ List.mem_cons_self)
    rw [List.flatMap_cons, List.flatMap_singleton, List.length_append]
    omega

theorem Packetizer.length_tableOctets (tables : List QuantTable) :
    (p.tableOctets tables).length = if p.quality < 128 ∨ tables = [] then 0
      else 4 + (tables.flatMap (·.coefficients)).length := by
  unfold Packetizer.tableOctets
  by_cases hq : 128 ≤ p.quality
  · by_cases ht : tables = []
    · simp [ht]
    · rw [if_pos ⟨hq, ht⟩, if_neg (not_or.mpr ⟨UInt8.not_lt.mpr hq, ht⟩), length_tableHeader]
  · rw [if_neg fun h => hq h.1, if_pos (Or.inl (UInt8.not_le.mp hq))]
    rfl

end Fragments

/-- **Pictures are cut into fragments.**  Of the packets of a picture that can be cut

* there are as many as it takes, the first with the room that the table header leaves;
* each carries a fragment that is not empty, and the fragments in order are the scan data;
* the offsets are the numbers of octets before, grow with each packet and fit twenty-four bits;
* the marker is on the last one alone, and all other fields are those of the picture, of which an
  octet holds an eighth of each side;
* none is larger than the limit, or than a table header with one octet, and all can be put in frames
  if the limit leaves room for the two headers. -/
theorem Packetizer.packets_partition {p : Packetizer} {picture : Picture} {packets : List Bytes}
    (hp : p.packets picture = .ok packets) :
    ∃ scan, Scan.ofPicture picture.data = .ok scan ∧
      let tables := p.tableOctets scan.tables
      let size := scan.data.length
      let room := max (p.mtu - tables.length) 1
      let width := UInt8.ofNat (picture.width.toNat / 8)
      let height := UInt8.ofNat (picture.height.toNat / 8)
      (tables.length = if p.quality < 128 ∨ scan.tables = [] then 0
        else 4 + (scan.tables.flatMap (·.coefficients)).length) ∧
      (packets.length = if size ≤ room then 1 else 1 + (size - room) ⌈/⌉ p.mtu) ∧
      (tables = [] → packets.length = size ⌈/⌉ p.mtu) ∧
      (width.toNat = picture.width.toNat / 8 ∧ height.toNat = picture.height.toNat / 8) ∧
      (∃ fragments : List Bytes, fragments.flatten = scan.data ∧ [] ∉ fragments ∧
        fragments.length = packets.length ∧
        (∀ i < packets.length, offsetOf fragments i < 2 ^ 24 ∧
          ∀ j < i, offsetOf fragments j < offsetOf fragments i) ∧
        ∀ i packet, packets[i]? = some packet → ∃ fragment, fragments[i]? = some fragment ∧
          Fragment.read? packet = some {
            rtp := {
              payloadType := 26
              timestamp := picture.time * 90
              marker := i + 1 == packets.length }
            specific := 0
            offset := offsetOf fragments i
            kind := p.kind
            quality := p.quality
            width
            height
            payload := (if i = 0 then tables else []) ++ fragment }) ∧
      (∀ packet ∈ packets, packet.length ≤ 20 + max p.mtu (tables.length + 1)) ∧
      (p.mtu ≤ 65515 → ∀ packet ∈ packets, ∀ channel,
        ∃ octets, Frame.write ⟨channel, packet⟩ = .ok octets) := by
  obtain ⟨⟨hwidth, hheight⟩, scan, hscan, hdata, hsmall, rfl⟩ := Packetizer.packets_eq_ok_iff.mp hp
  obtain ⟨segments, tail, hmade⟩ := Scan.made_of_ofPicture hscan
  refine ⟨scan, hscan, ?_⟩
  intro tables size room width height
  -- one octet holds an eighth of a side
  have heighth : ∀ {side : UInt16}, side ≤ maxSide →
      (UInt8.ofNat (side.toNat / 8)).toNat = side.toNat / 8 := by
    intro side hside
    have : side.toNat ≤ 2040 := UInt16.le_iff_toNat_le.mp hside
    exact UInt8.toNat_ofNat_of_lt' (by show _ < 256; omega)
  have hempty : [] ∉ p.fragments tables scan.data := fun h => p.of_mem_fragments tables hdata h rfl
  have hflatten := p.flatten_fragments tables scan.data
  have hlength := length_fragmented p picture tables scan.data
  have hoffset : ∀ i < (p.fragments tables scan.data).length,
      offsetOf (p.fragments tables scan.data) i < 2 ^ 24 ∧
        ∀ j < i, offsetOf (p.fragments tables scan.data) j <
          offsetOf (p.fragments tables scan.data) i := by
    intro i hi
    have hlt := offsetOf_lt hempty hi
    rw [hflatten] at hlt
    exact ⟨Nat.lt_of_lt_of_le hlt.1 (Nat.le_succ_of_le hsmall), hlt.2⟩
  have hpacket : ∀ packet ∈ fragmented p picture tables scan.data,
      packet.length ≤ 20 + max p.mtu (tables.length + 1) := by
    intro x hx
    obtain ⟨i, hi⟩ := List.mem_iff_getElem?.mp hx
    rw [getElem?_fragmented] at hi
    obtain ⟨fragment, hfragment, rfl⟩ := Option.map_eq_some_iff.mp hi
    have := p.length_fragment tables scan.data hfragment
    rw [length_packet]
    omega
  refine ⟨p.length_tableOctets scan.tables, ?_, ?_, ⟨heighth hwidth, heighth hheight⟩,
    ⟨p.fragments tables scan.data, hflatten, hempty, hlength.symm, ?_, ?_⟩, hpacket, ?_⟩
  · rw [hlength]
    exact p.length_fragments tables scan.data
  · intro hnone
    rw [hlength, hnone]
    exact p.length_fragments_nil hdata
  · rw [hlength]
    exact hoffset
  · intro i packet hi
    rw [getElem?_fragmented] at hi
    obtain ⟨fragment, hfragment, rfl⟩ := Option.map_eq_some_iff.mp hi
    have hlt := (hoffset i (List.getElem?_eq_some_iff.mp hfragment).1).1
    refine ⟨fragment, hfragment, ?_⟩
    rw [hlength, Fragment.read?_packet p picture (Nat.le_of_lt_succ hlt)]
    rfl
  · intro hmtu packet hmem channel
    have hcoefficients := length_coefficients_le hmade.tables hmade.few
    have htables : tables.length ≤ 260 := by
      show (p.tableOctets scan.tables).length ≤ 260
      rw [p.length_tableOctets]
      split <;> omega
    have hpayload := hpacket packet hmem
    refine ⟨_, if_pos ?_⟩
    show packet.length < 65536
    omega

/-- A picture with one quantization table. -/
def tabledPicture : Picture where
  time := 1000
  data := [0xFF, 0xD8, 0xFF, 0xDB, 0, 67, 0] ++ List.replicate 64 5 ++
    [0xFF, 0xDA, 0, 2, 1, 2, 3, 4, 5, 6, 7, 0xFF, 0xD9]
  width := 16
  height := 8

/-- A limit that is smaller than a table header. -/
def narrow : Packetizer := { mtu := 3 }

theorem Packetizer.packets_tabledPicture : narrow.packets tabledPicture =
    .ok (fragmented narrow tabledPicture (tableHeader [⟨0, List.replicate 64 5⟩])
      [1, 2, 3, 4, 5, 6, 7]) := by
  cbv

/-- Seven octets behind a table header of sixty-eight take three packets of at most three. -/
theorem Packetizer.partition_tabledPicture : ∃ scan,
    Scan.ofPicture tabledPicture.data = .ok scan ∧
      (fragmented narrow tabledPicture (tableHeader [⟨0, List.replicate 64 5⟩])
        [1, 2, 3, 4, 5, 6, 7]).length =
        if scan.data.length ≤ max (3 - (narrow.tableOctets scan.tables).length) 1 then 1
        else 1 + (scan.data.length - max (3 - (narrow.tableOctets scan.tables).length) 1) ⌈/⌉ 3 :=
  (packets_partition packets_tabledPicture).imp fun _ h => ⟨h.1, h.2.2.1⟩

end Jpeg

end RtspServer
