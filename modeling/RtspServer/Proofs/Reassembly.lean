/-
RtspServer/Proofs/Reassembly.lean

What a receiver makes of the packets of a picture.  Each packet has a share of
it.  An octet that a share covers is right from then on, whatever comes later
(`Assembly.join_foldl_add_of_covers`), and one that no share covers is missing.
The shares of all fragments cover all scan data.

Only a picture without tables, in a stream whose Q says that tables travel,
cannot be rebuilt: the octet at the end of its first fragment is in no share
(`Packetizer.not_covers_of_no_tables`).
-/
import RtspServer.Proofs.Fragments

namespace RtspServer

namespace Jpeg

/-! ### Laying data at its place -/

section Laying

variable {offset i : Nat} {data : Bytes} {octets : List (Option UInt8)}

theorem length_lay : (lay offset data octets).length = max octets.length (offset + data.length) := by
  simp only [lay, List.length_append, List.length_take, List.length_replicate, List.length_map,
    List.length_drop]
  omega

/-- Before its place nothing changes, except that what lies behind the end is missing now. -/
theorem getElem?_lay_before (h : i < offset) :
    (lay offset data octets)[i]? = some octets[i]?.join := by
  have hfront : (octets.take offset ++ List.replicate (offset - octets.length) none).length =
      offset := by
    simp only [List.length_append, List.length_take, List.length_replicate]
    omega
  rw [lay, List.getElem?_append_left (by rw [hfront]; exact h)]
  by_cases hi : i < octets.length
  · rw [List.getElem?_append_left (by rw [List.length_take]; omega), List.getElem?_take_of_lt h,
      List.getElem?_eq_getElem hi]
    rfl
  · have hlength : (octets.take offset).length = octets.length := by
      rw [List.length_take]
      omega
    rw [List.getElem?_append_right (by omega), hlength, List.getElem?_replicate_of_lt (by omega),
      List.getElem?_eq_none (by omega)]
    rfl

theorem getElem?_lay_at (k : Nat) :
    (lay offset data octets)[offset + k]? =
      (data.map some ++ octets.drop (offset + data.length))[k]? := by
  have hfront : (octets.take offset ++ List.replicate (offset - octets.length) none).length =
      offset := by
    simp only [List.length_append, List.length_take, List.length_replicate]
    omega
  rw [lay, List.getElem?_append_right (by omega), hfront, Nat.add_sub_cancel_left]

theorem getElem?_lay_inside {k : Nat} (h : k < data.length) :
    (lay offset data octets)[offset + k]? = some (some data[k]) := by
  rw [getElem?_lay_at, List.getElem?_append_left (by simpa using h), List.getElem?_map,
    List.getElem?_eq_getElem h]
  rfl

/-- Behind it nothing changes. -/
theorem getElem?_lay_after (h : offset + data.length ≤ i) :
    (lay offset data octets)[i]? = octets[i]? := by
  obtain ⟨k, rfl⟩ := Nat.exists_eq_add_of_le h
  rw [Nat.add_assoc, getElem?_lay_at, List.getElem?_append_right (by simp), List.getElem?_drop]
  simp [Nat.add_assoc]

end Laying

/-! ### Shares -/

/-- If nothing is missing, nothing is left out. -/
theorem map_some_filterMap {α : Type} {l : List (Option α)} (h : ∀ x ∈ l, x.isSome) :
    (l.filterMap id).map some = l := by
  induction l with
  | nil => rfl
  | cons x rest ih =>
    obtain ⟨hx, hrest⟩ := List.forall_mem_cons.mp h
    obtain ⟨v, rfl⟩ := Option.isSome_iff_exists.mp hx
    simpa using ih hrest

/-- A share has the octet at a place. -/
def Share.Covers (s : Share) (i : Nat) : Prop := s.offset ≤ i ∧ i < s.offset + s.data.length

/-- A share is a part of some scan data. -/
def Share.Of (data : Bytes) (s : Share) : Prop :=
  s.offset + s.data.length ≤ data.length ∧ ∀ k < s.data.length, s.data[k]? = data[s.offset + k]?

namespace Assembly

variable {a : Assembly} {s : Share} {shares : List Share} {data : Bytes} {i : Nat}

theorem join_add_of_not_covers (h : ¬s.Covers i) :
    ((a.add s).octets[i]?).join = (a.octets[i]?).join := by
  rcases Nat.lt_or_ge i s.offset with hbefore | hnext
  · show ((lay s.offset s.data a.octets)[i]?).join = _
    rw [getElem?_lay_before hbefore]
    rfl
  · show ((lay s.offset s.data a.octets)[i]?).join = _
    rw [getElem?_lay_after (Nat.not_lt.mp fun hlt => h ⟨hnext, hlt⟩)]

theorem join_add_of_covers (hs : s.Of data) (h : s.Covers i) :
    ((a.add s).octets[i]?).join = data[i]? := by
  obtain ⟨k, rfl⟩ := Nat.exists_eq_add_of_le h.1
  have hk : k < s.data.length := Nat.lt_of_add_lt_add_left h.2
  show ((lay s.offset s.data a.octets)[s.offset + k]?).join = _
  rw [getElem?_lay_inside hk, ← hs.2 k hk, List.getElem?_eq_getElem hk]
  rfl

/-- What no share covers stays as it is. -/
theorem join_foldl_add_of_not_covers (h : ∀ s ∈ shares, ¬s.Covers i) :
    ((shares.foldl add a).octets[i]?).join = (a.octets[i]?).join := by
  induction shares generalizing a with
  | nil => rfl
  | cons s rest ih =>
    obtain ⟨hs, hrest⟩ := List.forall_mem_cons.mp h
    rw [List.foldl_cons, ih hrest, join_add_of_not_covers hs]

/-- What some share covers is right, no matter what comes later. -/
theorem join_foldl_add_of_covers (hof : ∀ s ∈ shares, s.Of data)
    (h : ∃ s ∈ shares, s.Covers i) : ((shares.foldl add a).octets[i]?).join = data[i]? := by
  induction shares generalizing a with
  | nil => simp at h
  | cons s rest ih =>
    obtain ⟨hs, hrest⟩ := List.forall_mem_cons.mp hof
    rw [List.foldl_cons]
    by_cases hlater : ∃ s ∈ rest, s.Covers i
    · exact ih hrest hlater
    · have hcovers : s.Covers i := by
        obtain ⟨t, ht, hcovers⟩ := h
        rcases List.mem_cons.mp ht with rfl | ht
        · exact hcovers
        · exact (hlater ⟨t, ht, hcovers⟩).elim
      have hnone : ∀ s ∈ rest, ¬s.Covers i := fun t ht hcovers => hlater ⟨t, ht, hcovers⟩
      rw [join_foldl_add_of_not_covers hnone, join_add_of_covers hs hcovers]

theorem length_foldl_add_le (hof : ∀ s ∈ shares, s.Of data) (ha : a.octets.length ≤ data.length) :
    (shares.foldl add a).octets.length ≤ data.length := by
  induction shares generalizing a with
  | nil => exact ha
  | cons s rest ih =>
    obtain ⟨hs, hrest⟩ := List.forall_mem_cons.mp hof
    refine ih hrest ?_
    show (lay s.offset s.data a.octets).length ≤ _
    rw [length_lay]
    exact Nat.max_le.mpr ⟨ha, hs.1⟩

theorem ended_foldl_add :
    (shares.foldl add a).ended = (a.ended || shares.any (·.last)) := by
  induction shares generalizing a with
  | nil => simp
  | cons s rest ih => simp only [List.foldl_cons, ih, add, List.any_cons, Bool.or_assoc]

/-- If all shares with tables have the same ones, these are the tables. -/
theorem tables_foldl_add {tables : List ReceivedTable}
    (h : ∀ s ∈ shares, s.tables = none ∨ s.tables = some tables)
    (ha : a.tables = some tables ∨ (a.tables = none ∧ ∃ s ∈ shares, s.tables ≠ none)) :
    (shares.foldl add a).tables = some tables := by
  induction shares generalizing a with
  | nil => simpa using ha
  | cons s rest ih =>
    obtain ⟨hs, hrest⟩ := List.forall_mem_cons.mp h
    refine ih hrest ?_
    show s.tables.or a.tables = some tables ∨ _
    rcases hs with hs | hs
    · rcases ha with ha | ⟨ha, t, ht, hne⟩
      · exact Or.inl (by rw [hs, ha]; rfl)
      · rcases List.mem_cons.mp ht with rfl | ht
        · exact (hne hs).elim
        · exact Or.inr ⟨by show s.tables.or a.tables = none; rw [hs, ha]; rfl, t, ht, hne⟩
    · exact Or.inl (by rw [hs]; rfl)

theorem tables_foldl_add_of_none (h : ∀ s ∈ shares, s.tables = none) :
    (shares.foldl add a).tables = a.tables := by
  induction shares generalizing a with
  | nil => rfl
  | cons s rest ih =>
    obtain ⟨hs, hrest⟩ := List.forall_mem_cons.mp h
    rw [List.foldl_cons, ih hrest]
    show s.tables.or a.tables = a.tables
    rw [hs]
    rfl

/-- Octets that are all there are the scan data. -/
theorem octets_eq_map_some (hlength : a.octets.length ≤ data.length)
    (h : ∀ i < data.length, (a.octets[i]?).join = data[i]?) : a.octets = data.map some := by
  refine List.ext_getElem? fun i => ?_
  rw [List.getElem?_map]
  by_cases hi : i < data.length
  · have hjoin := h i hi
    rw [List.getElem?_eq_getElem hi] at hjoin ⊢
    exact Option.join_eq_some_iff.mp hjoin
  · rw [List.getElem?_eq_none (by omega), List.getElem?_eq_none (by omega)]
    rfl

/-- A picture that is whole has no octet but those that are there. -/
theorem join_of_whole? {r : ReceivedPicture} (h : a.whole? = some r) (i : Nat) :
    (a.octets[i]?).join = r.data[i]? := by
  unfold whole? at h
  split at h
  · next hwhole =>
    obtain rfl := Option.some.inj h
    have hall : ∀ x ∈ a.octets, x.isSome := by
      simpa using (Bool.and_eq_true_iff.mp hwhole).2
    show (a.octets[i]?).join = (a.octets.filterMap id)[i]?
    conv_lhs => rw [← map_some_filterMap hall, List.getElem?_map]
    cases (a.octets.filterMap id)[i]? <;> rfl
  · cases h

/-- A picture that has come as a whole. -/
theorem whole?_of_octets (hended : a.ended = true) (h : a.octets = data.map some) :
    a.whole? = some ⟨a.tables, data⟩ := by
  have hall : a.octets.all (·.isSome) = true := by simp [h]
  have hdata : a.octets.filterMap id = data := by
    rw [h, List.filterMap_map]
    exact List.filterMap_some
  rw [whole?, hended, hall, hdata]
  rfl

end Assembly

/-- The picture in some packets is the one in their shares. -/
theorem reassemble?_eq_some_iff {arrived : List Bytes} {r : ReceivedPicture} :
    reassemble? arrived = some r ↔ ∃ shares : List Share,
      arrived.map Share.read? = shares.map some ∧
        (shares.foldl Assembly.add {}).whole? = some r := by
  have hmapM : ∀ shares, arrived.mapM Share.read? = some shares ↔
      arrived.map Share.read? = shares.map some := by
    induction arrived with
    | nil => intro shares; rcases shares with - | ⟨s, shares⟩ <;> simp
    | cons x rest ih =>
      intro shares
      rcases shares with - | ⟨s, shares⟩ <;> simp [List.mapM_cons, Option.bind_eq_some_iff, ih]
  simp only [reassemble?, bind, Option.bind_eq_some_iff, hmapM]

theorem mem_shares_iff {arrived : List Bytes} {shares : List Share}
    (h : arrived.map Share.read? = shares.map some) {s : Share} :
    s ∈ shares ↔ ∃ x ∈ arrived, Share.read? x = some s := by
  rw [← List.mem_map, h]
  simp

/-- Packets that can all be read have shares. -/
theorem exists_shares {arrived : List Bytes} (h : ∀ x ∈ arrived, ∃ s, Share.read? x = some s) :
    ∃ shares : List Share, arrived.map Share.read? = shares.map some := by
  refine ⟨(arrived.map Share.read?).filterMap id, (map_some_filterMap ?_).symm⟩
  intro read hread
  obtain ⟨x, hx, rfl⟩ := List.mem_map.mp hread
  exact Option.isSome_iff_exists.mpr (h x hx)

/-! ### Tables -/

theorem QuantTable.length_coefficients {t : QuantTable} (h : t.Fits) :
    t.coefficients.length = tableSize t.isWide := by
  rw [h]
  simp only [coefficientSize, tableSize, QuantTable.isWide, bne_iff_ne]
  split <;> simp_all

/-- Coefficients are cut into the tables they are of if the precision bits are theirs. -/
theorem cutTables?_flatMap {octet : UInt8} {place : Nat} {tables : List QuantTable}
    (hfits : ∀ t ∈ tables, t.Fits)
    (hbits : ∀ i t, tables[i]? = some t → octet.toNat.testBit (place + i) = t.isWide) :
    cutTables? octet place (tables.flatMap (·.coefficients)) =
      some (tables.map QuantTable.received) := by
  induction tables generalizing place with
  | nil =>
    rw [cutTables?]
    rfl
  | cons t rest ih =>
    obtain ⟨ht, hrest⟩ := List.forall_mem_cons.mp hfits
    have hbit : octet.toNat.testBit place = t.isWide := hbits 0 t rfl
    have hlength := QuantTable.length_coefficients ht
    have hmore : cutTables? octet (place + 1) (rest.flatMap (·.coefficients)) =
        some (rest.map QuantTable.received) := ih hrest fun i u hu => by
      rw [Nat.add_assoc, Nat.add_comm 1]
      exact hbits (i + 1) u hu
    have hpos : 0 < tableSize t.isWide := by
      unfold tableSize
      split <;> decide
    have hsome : (t :: rest).flatMap (·.coefficients) ≠ [] := by
      rw [List.flatMap_cons]
      exact List.append_ne_nil_of_left_ne_nil (List.length_pos_iff.mp (hlength ▸ hpos)) _
    rw [cutTables?, dif_neg hsome]
    dsimp only
    rw [hbit, List.flatMap_cons, ← hlength, List.drop_left, List.take_left, hmore, if_neg (by simp)]
    rfl

/-- The precision octet has one bit for each of two tables. -/
theorem testBit_precision {tables : List QuantTable} (hfew : tables.length ≤ 2) {i : Nat}
    {t : QuantTable} (h : tables[i]? = some t) :
    (UInt8.ofNat (precision 0 tables)).toNat.testBit (0 + i) = t.isWide := by
  rcases tables with - | ⟨u, - | ⟨v, rest⟩⟩
  · simp at h
  · obtain ⟨rfl, rfl⟩ : i = 0 ∧ u = t := by rcases i with - | i <;> simp_all
    simp only [precision, precisionBit]
    cases u.isWide <;> rfl
  · obtain rfl : rest = [] := List.length_eq_zero_iff.mp (by simpa using hfew)
    rcases i with - | i
    · obtain rfl : u = t := by simpa using h
      simp only [precision, precisionBit]
      cases u.isWide <;> cases v.isWide <;> rfl
    · obtain ⟨rfl, rfl⟩ : i = 0 ∧ v = t := by rcases i with - | i <;> simp_all
      simp only [precision, precisionBit]
      cases u.isWide <;> cases v.isWide <;> rfl

/-- A table header is four octets and as many coefficients as they say. -/
theorem takeTables?_eq_some_iff {payload rest : Bytes} {tables : List ReceivedTable} :
    takeTables? payload = some (tables, rest) ↔ ∃ zero octet hi lo coefficients,
      payload = zero :: octet :: hi :: lo :: (coefficients ++ rest) ∧
        coefficients.length = (word16 hi lo).toNat ∧
        cutTables? octet 0 coefficients = some tables := by
  constructor
  · intro h
    unfold takeTables? at h
    split at h
    · next zero octet hi lo after =>
      dsimp only at h
      split at h
      · cases h
      · next hsize =>
        obtain ⟨cut, hcut, heq⟩ := Option.map_eq_some_iff.mp h
        obtain ⟨rfl, rfl⟩ := Prod.mk.inj heq
        refine ⟨zero, octet, hi, lo, after.take (word16 hi lo).toNat, ?_, ?_, hcut⟩
        · rw [List.take_append_drop]
        · exact List.length_take_of_le (Nat.not_lt.mp hsize)
    · cases h
  · rintro ⟨zero, octet, hi, lo, coefficients, rfl, hlength, hcut⟩
    rw [takeTables?, ← hlength, if_neg (by simp), List.take_left, List.drop_left, hcut]
    rfl

/-- **A table header reads back** as the tables, and what follows it is left. -/
theorem takeTables?_tableHeader {tables : List QuantTable} (hfits : ∀ t ∈ tables, t.Fits)
    (hfew : tables.length ≤ 2) (rest : Bytes) :
    takeTables? (tableHeader tables ++ rest) = some (tables.map QuantTable.received, rest) := by
  have hsize := length_coefficients_le hfits hfew
  refine takeTables?_eq_some_iff.mpr ⟨_, _, _, _, tables.flatMap (·.coefficients), rfl, ?_,
    cutTables?_flatMap hfits fun i t => testBit_precision hfew⟩
  rw [word16_octets16]
  exact (UInt16.toNat_ofNat_of_lt' (by show _ < 65536; omega)).symm

/-- What is taken for a table header is not read as scan data. -/
theorem length_of_takeTables? {payload rest : Bytes} {tables : List ReceivedTable}
    (h : takeTables? payload = some (tables, rest)) : rest.length + 4 ≤ payload.length := by
  obtain ⟨zero, octet, hi, lo, coefficients, rfl, -, -⟩ := takeTables?_eq_some_iff.mp h
  simp only [List.length_cons, List.length_append]
  omega

/-! ### Fragments -/

section Fragments

variable {fragments : List Bytes} {i k : Nat} {fragment : Bytes}

/-- The share that a receiver should have of the fragment at a place. -/
def Share.ofFragment (tables : Option (List ReceivedTable)) (fragments : List Bytes) (i : Nat)
    (fragment : Bytes) : Share :=
  ⟨if i = 0 then tables else none, offsetOf fragments i, fragment, i + 1 == fragments.length⟩

theorem Share.of_ofFragment (tables : Option (List ReceivedTable))
    (h : fragments[i]? = some fragment) :
    (Share.ofFragment tables fragments i fragment).Of fragments.flatten := by
  obtain ⟨hi, rfl⟩ := List.getElem?_eq_some_iff.mp h
  have hcut : fragments.flatten = (fragments.take i).flatten ++
      (fragments[i] ++ (fragments.drop (i + 1)).flatten) := by
    conv_lhs => rw [← List.take_append_drop i fragments, List.drop_eq_getElem_cons hi]
    rw [List.flatten_append, List.flatten_cons]
  constructor
  · show offsetOf fragments i + fragments[i].length ≤ _
    rw [hcut, List.length_append, List.length_append, offsetOf]
    omega
  · intro k hk
    show fragments[i][k]? = fragments.flatten[offsetOf fragments i + k]?
    rw [hcut, offsetOf, List.getElem?_append_right (Nat.le_add_right ..), Nat.add_sub_cancel_left]
    exact (List.getElem?_append_left hk).symm

/-- Every octet is in a fragment. -/
theorem exists_fragment (h : k < fragments.flatten.length) :
    ∃ i fragment, fragments[i]? = some fragment ∧ offsetOf fragments i ≤ k ∧
      k < offsetOf fragments i + fragment.length := by
  induction fragments generalizing k with
  | nil => exact absurd h (Nat.not_lt_zero k)
  | cons first rest ih =>
    rw [List.flatten_cons, List.length_append] at h
    rcases Nat.lt_or_ge k first.length with hk | hk
    · exact ⟨0, first, rfl, Nat.zero_le _, by rw [offsetOf]; simpa using hk⟩
    · obtain ⟨i, fragment, hi, hle, hlt⟩ := ih (k := k - first.length) (by omega)
      refine ⟨i + 1, fragment, hi, ?_, ?_⟩ <;> rw [offsetOf_cons_succ] <;> omega

/-- **Shares make up a picture** if they are those of all fragments. -/
theorem Assembly.whole?_of_fragments {tables : Option (List ReceivedTable)} {shares : List Share}
    (hne : fragments ≠ [])
    (h : ∀ s, s ∈ shares ↔ ∃ i fragment, fragments[i]? = some fragment ∧
      s = Share.ofFragment tables fragments i fragment) :
    (shares.foldl Assembly.add {}).whole? = some ⟨tables, fragments.flatten⟩ := by
  have hof : ∀ s ∈ shares, s.Of fragments.flatten := by
    intro s hs
    obtain ⟨i, fragment, hi, rfl⟩ := (h s).mp hs
    exact Share.of_ofFragment tables hi
  have hpos := List.length_pos_iff.mpr hne
  -- the last share ends the picture, and the first has the tables
  have hended : (shares.foldl Assembly.add {}).ended = true := by
    have hlast := List.getElem?_eq_getElem (l := fragments) (Nat.sub_one_lt_of_lt hpos)
    rw [Assembly.ended_foldl_add]
    refine List.any_eq_true.mpr ⟨_, (h _).mpr ⟨_, _, hlast, rfl⟩, ?_⟩
    show (fragments.length - 1 + 1 == fragments.length) = true
    rw [Nat.sub_add_cancel hpos]
    exact beq_self_eq_true _
  have htables : (shares.foldl Assembly.add {}).tables = tables := by
    have hshare : ∀ s ∈ shares, s.tables = none ∨ s.tables = tables := by
      intro s hs
      obtain ⟨i, fragment, -, rfl⟩ := (h s).mp hs
      unfold Share.ofFragment
      split
      · exact Or.inr rfl
      · exact Or.inl rfl
    rcases tables with - | tables
    · exact Assembly.tables_foldl_add_of_none fun s hs => (hshare s hs).elim id id
    · have hfirst := (h _).mpr ⟨0, _, List.getElem?_eq_getElem hpos, rfl⟩
      exact Assembly.tables_foldl_add hshare (Or.inr ⟨rfl, _, hfirst, nofun⟩)
  have hoctets : (shares.foldl Assembly.add {}).octets = fragments.flatten.map some := by
    refine Assembly.octets_eq_map_some (Assembly.length_foldl_add_le hof (Nat.zero_le _)) ?_
    intro k hk
    obtain ⟨i, fragment, hi, hle, hlt⟩ := exists_fragment hk
    exact Assembly.join_foldl_add_of_covers hof ⟨_, (h _).mpr ⟨i, fragment, hi, rfl⟩, hle, hlt⟩
  rw [Assembly.whole?_of_octets hended hoctets, htables]

end Fragments

/-! ### Packets -/

section Packets

variable (p : Packetizer) (picture : Picture) (last : Bool) (fragment : Bytes)

/-- A packet that carries no table header. -/
theorem Share.read?_packet {offset : Nat} (hoffset : offset ≤ maxScan)
    (h : offset ≠ 0 ∨ p.quality < 128) :
    Share.read? (packet p picture [] offset last fragment) = some ⟨none, offset, fragment, last⟩ := by
  have hplain : ¬(offset = 0 ∧ 128 ≤ p.quality) := by
    rintro ⟨hzero, hq⟩
    rcases h with h | h
    · exact h hzero
    · exact absurd hq (UInt8.not_le.mpr h)
  simp only [Share.read?, Fragment.read?_packet p picture hoffset, Fragment.contents?, bind,
    Option.bind_some, if_neg hplain]
  rfl

/-- A packet behind whose headers a receiver looks for a table header. -/
theorem Share.read?_packet_tables (hq : 128 ≤ p.quality) (extra : Bytes) :
    Share.read? (packet p picture extra 0 last fragment) =
      (takeTables? (extra ++ fragment)).map fun (tables, data) => ⟨some tables, 0, data, last⟩ := by
  simp only [Share.read?, Fragment.read?_packet p picture (Nat.zero_le _), Fragment.contents?,
    bind, Option.bind_some, hq, and_self, if_true]
  cases takeTables? (extra ++ fragment) <;> rfl

end Packets

/-- What a receiver is to have of the tables of a picture. -/
def Packetizer.receivedTables (p : Packetizer) (tables : List QuantTable) :
    Option (List ReceivedTable) :=
  if 128 ≤ p.quality then some (tables.map QuantTable.received) else none

/-- If tables travel, or the receiver looks for none, it reads every packet for what it is. -/
theorem Packetizer.read?_fragmented {p : Packetizer} (picture : Picture) {scan : Scan}
    (hdata : scan.data ≠ []) (hsmall : scan.data.length ≤ maxScan)
    (hfits : ∀ t ∈ scan.tables, t.Fits) (hfew : scan.tables.length ≤ 2)
    (htables : p.quality < 128 ∨ scan.tables ≠ []) {i : Nat} {fragment : Bytes}
    (hi : (p.fragments (p.tableOctets scan.tables) scan.data)[i]? = some fragment) :
    Share.read? (packet p picture (if i = 0 then p.tableOctets scan.tables else [])
        (offsetOf (p.fragments (p.tableOctets scan.tables) scan.data) i)
        (i + 1 == (p.fragments (p.tableOctets scan.tables) scan.data).length) fragment) =
      some (Share.ofFragment (p.receivedTables scan.tables)
        (p.fragments (p.tableOctets scan.tables) scan.data) i fragment) := by
  set fragments := p.fragments (p.tableOctets scan.tables) scan.data with hfragments
  have hempty : [] ∉ fragments := fun h => p.of_mem_fragments _ hdata h rfl
  have hlt := offsetOf_lt hempty (List.getElem?_eq_some_iff.mp hi).1
  have hoffset : offsetOf fragments i ≤ maxScan := by
    rw [p.flatten_fragments] at hlt
    exact Nat.le_trans (Nat.le_of_lt hlt.1) hsmall
  rcases Nat.eq_zero_or_pos i with rfl | hpos
  · by_cases hq : 128 ≤ p.quality
    · -- the first packet carries the tables
      have hsome : scan.tables ≠ [] := htables.resolve_left (UInt8.not_lt.mpr hq)
      have hoctets : p.tableOctets scan.tables = tableHeader scan.tables := if_pos ⟨hq, hsome⟩
      have hreceived : p.receivedTables scan.tables = some (scan.tables.map QuantTable.received) :=
        if_pos hq
      show Share.read? (packet p picture (p.tableOctets scan.tables) 0 _ fragment) = _
      rw [Share.read?_packet_tables p picture _ fragment hq, hoctets,
        takeTables?_tableHeader hfits hfew, hreceived]
      rfl
    · have hoctets : p.tableOctets scan.tables = [] := if_neg fun h => hq h.1
      have hreceived : p.receivedTables scan.tables = none := if_neg hq
      show Share.read? (packet p picture (p.tableOctets scan.tables) 0 _ fragment) = _
      rw [hoctets, Share.read?_packet p picture _ fragment (Nat.zero_le _)
        (Or.inr (UInt8.not_le.mp hq)), hreceived]
      rfl
  · have hne : i ≠ 0 := Nat.ne_of_gt hpos
    have hbehind : offsetOf fragments i ≠ 0 := Nat.ne_of_gt (Nat.zero_lt_of_lt (hlt.2 0 hpos))
    rw [if_neg hne, Share.read?_packet p picture _ fragment hoffset (Or.inl hbehind),
      Share.ofFragment, if_neg hne]

/-- A receiver that looks for a table header where none is takes scan data for one, and never has
the octet at the end of the first fragment. -/
theorem Packetizer.not_covers_of_no_tables {p : Packetizer} {picture : Picture} {data : Bytes}
    (hdata : data ≠ []) (hsmall : data.length ≤ maxScan) (hq : 128 ≤ p.quality) {i : Nat}
    {fragment : Bytes} {s : Share} (hi : (p.fragments [] data)[i]? = some fragment)
    (hs : Share.read? (packet p picture [] (offsetOf (p.fragments [] data) i)
      (i + 1 == (p.fragments [] data).length) fragment) = some s) :
    ¬s.Covers ((data.take (p.room [])).length - 1) := by
  have hempty : [] ∉ p.fragments [] data := fun h => p.of_mem_fragments _ hdata h rfl
  have hlt := offsetOf_lt hempty (List.getElem?_eq_some_iff.mp hi).1
  have hpos : 0 < (data.take (p.room [])).length :=
    List.length_pos_iff.mpr (p.of_mem_fragments [] hdata List.mem_cons_self)
  rcases i with - | i
  · have hread : Share.read? (packet p picture [] 0 _ fragment) = some s := hs
    rw [Share.read?_packet_tables p picture _ fragment hq] at hread
    obtain ⟨⟨tables, rest⟩, htake, rfl⟩ := Option.map_eq_some_iff.mp hread
    have hshort := length_of_takeTables? htake
    obtain rfl : data.take (p.room []) = fragment := Option.some.inj hi
    rintro ⟨-, hbelow⟩
    have hbelow : (data.take (p.room [])).length - 1 < 0 + rest.length := hbelow
    rw [List.nil_append] at hshort
    omega
  · -- the other fragments belong behind the first one
    have hfirst : offsetOf (p.fragments [] data) 1 = (data.take (p.room [])).length := by
      simp [offsetOf, Packetizer.fragments]
    have hbehind : (data.take (p.room [])).length ≤ offsetOf (p.fragments [] data) (i + 1) := by
      rcases i with - | i
      · exact Nat.le_of_eq hfirst.symm
      · exact hfirst ▸ Nat.le_of_lt (hlt.2 1 (by omega))
    have hoffset : offsetOf (p.fragments [] data) (i + 1) ≤ maxScan := by
      rw [p.flatten_fragments] at hlt
      exact Nat.le_trans (Nat.le_of_lt hlt.1) hsmall
    rw [Share.read?_packet p picture _ fragment hoffset (Or.inl (by omega))] at hs
    obtain rfl := Option.some.inj hs
    rintro ⟨hle, -⟩
    have hle : offsetOf (p.fragments [] data) (i + 1) ≤ (data.take (p.room [])).length - 1 := hle
    omega

/-- **A receiver rebuilds a picture from its packets**, in whatever order and however often they
come: the scan data that stands in the picture, and the tables if Q says that they travel.  If Q says
so and there are none, no table header travels either, and the receiver gets something else. -/
theorem Packetizer.reassemble?_packets {p : Packetizer} {picture : Picture} {packets : List Bytes}
    (hp : p.packets picture = .ok packets) :
    ∃ segments scan tail, Made picture.data segments scan tail ∧
      ∀ arrived : List Bytes, (∀ x, x ∈ arrived ↔ x ∈ packets) →
        (p.quality < 128 → reassemble? arrived = some ⟨none, scan.data⟩) ∧
        (128 ≤ p.quality → scan.tables ≠ [] →
          reassemble? arrived = some ⟨some (scan.tables.map QuantTable.received), scan.data⟩) ∧
        (128 ≤ p.quality → scan.tables = [] →
          ∀ r, reassemble? arrived = some r → r.data ≠ scan.data) := by
  obtain ⟨-, scan, hscan, hdata, hsmall, rfl⟩ := Packetizer.packets_eq_ok_iff.mp hp
  obtain ⟨segments, tail, hmade⟩ := Scan.made_of_ofPicture hscan
  refine ⟨segments, scan, tail, hmade, fun arrived harrived => ?_⟩
  have hpacket : ∀ x, x ∈ arrived ↔ ∃ i fragment,
      (p.fragments (p.tableOctets scan.tables) scan.data)[i]? = some fragment ∧
        packet p picture (if i = 0 then p.tableOctets scan.tables else [])
          (offsetOf (p.fragments (p.tableOctets scan.tables) scan.data) i)
          (i + 1 == (p.fragments (p.tableOctets scan.tables) scan.data).length) fragment = x := by
    intro x
    simp only [harrived, List.mem_iff_getElem?, getElem?_fragmented, Option.map_eq_some_iff]
  have hright : p.quality < 128 ∨ scan.tables ≠ [] →
      reassemble? arrived = some ⟨p.receivedTables scan.tables, scan.data⟩ := by
    intro htables
    have hshare (i : Nat) (fragment : Bytes)
        (hi : (p.fragments (p.tableOctets scan.tables) scan.data)[i]? = some fragment) :=
      p.read?_fragmented picture hdata hsmall hmade.tables hmade.few htables hi
    obtain ⟨shares, hshares⟩ := exists_shares fun x hx => by
      obtain ⟨i, fragment, hi, rfl⟩ := (hpacket x).mp hx
      exact ⟨_, hshare i fragment hi⟩
    refine reassemble?_eq_some_iff.mpr ⟨shares, hshares, ?_⟩
    rw [← p.flatten_fragments (p.tableOctets scan.tables) scan.data]
    refine Assembly.whole?_of_fragments (List.cons_ne_nil _ _) fun s => ?_
    rw [mem_shares_iff hshares]
    constructor
    · rintro ⟨x, hx, hs⟩
      obtain ⟨i, fragment, hi, rfl⟩ := (hpacket x).mp hx
      exact ⟨i, fragment, hi, Option.some.inj (hs.symm.trans (hshare i fragment hi))⟩
    · rintro ⟨i, fragment, hi, rfl⟩
      exact ⟨_, (hpacket _).mpr ⟨i, fragment, hi, rfl⟩, hshare i fragment hi⟩
  refine ⟨fun hq => ?_, fun hq htables => ?_, fun hq hnone r hr hsame => ?_⟩
  · rw [hright (Or.inl hq), Packetizer.receivedTables, if_neg (UInt8.not_le.mpr hq)]
  · rw [hright (Or.inr htables), Packetizer.receivedTables, if_pos hq]
  · obtain ⟨shares, hshares, hwhole⟩ := reassemble?_eq_some_iff.mp hr
    have hoctets : p.tableOctets scan.tables = [] := if_neg fun h => h.2 hnone
    rw [hoctets] at hpacket
    have hmissing := Assembly.join_foldl_add_of_not_covers (a := {}) fun s hs => by
      obtain ⟨x, hx, hread⟩ := (mem_shares_iff hshares).mp hs
      obtain ⟨i, fragment, hi, rfl⟩ := (hpacket x).mp hx
      rw [ite_self] at hread
      exact p.not_covers_of_no_tables hdata hsmall hq hi hread
    -- that octet is missing, but the picture has it
    have hlast : (scan.data.take (p.room [])).length - 1 < scan.data.length := by
      have htake := List.length_take_le' (p.room []) scan.data
      have hpos := List.length_pos_iff.mpr hdata
      omega
    rw [Assembly.join_of_whole? hwhole, hsame, List.getElem?_eq_getElem hlast] at hmissing
    cases hmissing

/-- Three packets, the table among them, come as the picture they were cut from. -/
theorem Packetizer.reassemble?_tabledPicture : ∃ segments scan tail,
    Made tabledPicture.data segments scan tail ∧ ∀ arrived : List Bytes,
      (∀ x, x ∈ arrived ↔ x ∈ fragmented narrow tabledPicture
        (tableHeader [⟨0, List.replicate 64 5⟩]) [1, 2, 3, 4, 5, 6, 7]) →
      (scan.tables ≠ [] →
        reassemble? arrived = some ⟨some (scan.tables.map QuantTable.received), scan.data⟩) := by
  obtain ⟨segments, scan, tail, hmade, h⟩ := reassemble?_packets packets_tabledPicture
  exact ⟨segments, scan, tail, hmade, fun arrived harrived => (h arrived harrived).2.1 (by decide)⟩

/-- A picture without tables. -/
def barePicture : Picture where
  time := 0
  data := [0xFF, 0xD8, 0xFF, 0xDA, 0, 2, 0, 0, 0, 0, 7, 0xFF, 0xD9]
  width := 8
  height := 8

/-- The first four octets of its scan data are taken for a table header without tables. -/
theorem Packetizer.barePicture_misread : ¬∀ (p : Packetizer) (picture : Picture)
    (packets : List Bytes), p.packets picture = .ok packets →
      ∃ scan, Scan.ofPicture picture.data = .ok scan ∧
        reassemble? packets = some ⟨p.receivedTables scan.tables, scan.data⟩ := by
  intro h
  have hpackets : ({ mtu_pos := Nat.succ_pos 1399 } : Packetizer).packets barePicture =
      .ok [packet { mtu_pos := Nat.succ_pos 1399 } barePicture [] 0 true [0, 0, 0, 0, 7]] := by
    cbv
  obtain ⟨scan, hscan, hpicture⟩ := h _ barePicture _ hpackets
  have hbare : Scan.ofPicture barePicture.data = .ok ⟨[], [0, 0, 0, 0, 7]⟩ := by cbv
  obtain rfl := Except.ok.inj (hbare.symm.trans hscan)
  have hread : reassemble? [packet { mtu_pos := Nat.succ_pos 1399 } barePicture [] 0 true
      [0, 0, 0, 0, 7]] = some ⟨some [], [7]⟩ := by
    decide +kernel
  rw [hread] at hpicture
  simp at hpicture

end Jpeg

end RtspServer
