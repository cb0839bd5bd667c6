/-
RtspServer/Proofs/Places.lean

The walk over a picture by places.  `walk` takes segments off the front of the
octets that are left; a walk in memory goes from place to place and reads words
and slices where it stands.  `walkPlaces?` is that walk, with every read checked:
it gives nothing at all as soon as one would reach outside of the picture.  It
never does, and it stops where `walk` stops (`walkPlaces?_eq`).

So the grammar of a picture (Grammar.lean) is a grammar of places: the walk
succeeds if and only if the picture begins with a head, which then ends where the
walk has stopped (`pictures_walked`).
-/
import RtspServer.Proofs.Grammar

namespace RtspServer

namespace Jpeg

/-! ### Reads -/

/-- The word at a place, if both of its octets are there. -/
def wordAt? (b : Bytes) (place : Nat) : Option UInt16 :=
  match b[place]?, b[place + 1]? with
  | some high, some low => some (word16 high low)
  | _, _ => none

/-- The octets from one place up to another, if these come in order and lie inside. -/
def slice? (b : Bytes) (start stop : Nat) : Option Bytes :=
  if start ≤ stop ∧ stop ≤ b.length then some ((b.drop start).take (stop - start)) else none

/-- The walk over the segments from a place on, behind those found before. Nothing is what a read
outside gives. -/
def walkFrom? (b : Bytes) (place : Nat) (found : List Segment) :
    Option (Except Fault (List Segment × Nat)) :=
  if _htruncated : b.length < place + 4 then
    some (.error (.invalidJpeg "truncated before start of scan".toList))
  else
    match wordAt? b place, wordAt? b (place + 2) with
    | some marker, some size =>
      if marker.toNat / 256 ≠ 255 then some (.error (.invalidJpeg "expected marker".toList))
      else if _hsize : size.toNat < 2 ∨ b.length < place + 2 + size.toNat then
        some (.error (.invalidJpeg "segment overruns frame".toList))
      else
        match slice? b (place + 4) (place + 2 + size.toNat) with
        | some body =>
          if marker = scanMarker then
            some (.ok (found ++ [⟨marker, body⟩], place + 2 + size.toNat))
          else walkFrom? b (place + 2 + size.toNat) (found ++ [⟨marker, body⟩])
        | none => none
    | _, _ => none
  termination_by b.length - place

/-- The walk over a picture: its segments, and the place behind them. -/
def walkPlaces? (b : Bytes) : Option (Except Fault (List Segment × Nat)) :=
  if b.length < 4 then some (.error (.invalidJpeg "missing SOI marker".toList))
  else
    match wordAt? b 0 with
    | some marker =>
      if marker ≠ 0xFFD8 then some (.error (.invalidJpeg "missing SOI marker".toList))
      else walkFrom? b 2 []
    | none => none

/-! ### Every read is inside -/

/-- Four octets at a place are two words. -/
theorem drop_eq_words {b : Bytes} {place : Nat} (h : place + 4 ≤ b.length) :
    ∃ m₀ m₁ s₀ s₁, b.drop place = m₀ :: m₁ :: s₀ :: s₁ :: b.drop (place + 4) ∧
      wordAt? b place = some (word16 m₀ m₁) ∧ wordAt? b (place + 2) = some (word16 s₀ s₁) := by
  have hread : ∀ i, (hi : i < b.length) → b[i]? = some b[i] := fun i hi => List.getElem?_eq_getElem hi
  refine ⟨b[place], b[place + 1], b[place + 2], b[place + 3], ?_, ?_, ?_⟩
  · rw [List.drop_eq_getElem_cons (by omega), List.drop_eq_getElem_cons (by omega),
      List.drop_eq_getElem_cons (by omega), List.drop_eq_getElem_cons (by omega)]
  · rw [wordAt?, hread place (by omega), hread (place + 1) (by omega)]
  · rw [wordAt?, hread (place + 2) (by omega), hread (place + 2 + 1) (by omega)]

/-- A marker begins with FF if its first octet is FF. -/
theorem word16_high (m₀ m₁ : UInt8) : (word16 m₀ m₁).toNat / 256 = 255 ↔ m₀ = 0xFF := by
  have h₀ := m₀.toNat_lt
  have h₁ := m₁.toNat_lt
  rw [← UInt8.toNat_inj, word16, UInt16.toNat_ofNat']
  show (m₀.toNat * 256 + m₁.toNat) % 65536 / 256 = 255 ↔ m₀.toNat = 255
  omega

/-- Fewer than four octets are no segment. -/
theorem walkSegments_of_short {b : Bytes} (h : b.length < 4) :
    walkSegments b = .error (.invalidJpeg "truncated before start of scan".toList) := by
  unfold walkSegments
  split
  · simp only [List.length_cons] at h
    omega
  · rfl

/-- One step of the walk over what is left from a place on, in terms of places. -/
theorem walkSegments_drop {b : Bytes} {place : Nat} {marker size : UInt16}
    (h : place + 4 ≤ b.length) (hmarker : wordAt? b place = some marker)
    (hsize : wordAt? b (place + 2) = some size) :
    walkSegments (b.drop place) =
      if marker.toNat / 256 ≠ 255 then .error (.invalidJpeg "expected marker".toList)
      else if size.toNat < 2 ∨ b.length < place + 2 + size.toNat then
        .error (.invalidJpeg "segment overruns frame".toList)
      else
        let s : Segment := ⟨marker, (b.drop (place + 4)).take (size.toNat - 2)⟩
        if marker = scanMarker then .ok ([s], b.drop (place + 2 + size.toNat))
        else
          match walkSegments (b.drop (place + 2 + size.toNat)) with
          | .ok (segments, scan) => .ok (s :: segments, scan)
          | .error fault => .error fault := by
  obtain ⟨m₀, m₁, s₀, s₁, hdrop, hmarker', hsize'⟩ := drop_eq_words h
  obtain rfl : word16 m₀ m₁ = marker := Option.some.inj (hmarker'.symm.trans hmarker)
  obtain rfl : word16 s₀ s₁ = size := Option.some.inj (hsize'.symm.trans hsize)
  rw [hdrop, walkSegments]
  generalize hn : (word16 s₀ s₁).toNat = n
  by_cases hff : m₀ = 0xFF
  · rw [if_neg (not_not.mpr hff), if_neg (not_not.mpr ((word16_high m₀ m₁).mpr hff))]
    -- the body is short exactly if the segment ends outside
    have hinside : (n < 2 ∨ ((b.drop (place + 4)).take (n - 2)).length < n - 2) ↔
        (n < 2 ∨ b.length < place + 2 + n) := by
      rw [List.length_take, List.length_drop]
      omega
    by_cases hover : n < 2 ∨ b.length < place + 2 + n
    · rw [if_pos (hinside.mpr hover), if_pos hover]
    · have hrest : (b.drop (place + 4)).drop (n - 2) = b.drop (place + 2 + n) := by
        have hend : place + 4 + (n - 2) = place + 2 + n := by omega
        rw [List.drop_drop, hend]
      rw [if_neg (mt hinside.mp hover), if_neg hover]
      exact hrest ▸ rfl
  · rw [if_pos hff, if_pos (mt (word16_high m₀ m₁).mp hff)]

/-- The word SOI is the octets FF and D8. -/
theorem word16_eq_soi_iff (m₀ m₁ : UInt8) : word16 m₀ m₁ = 0xFFD8 ↔ m₀ = 0xFF ∧ m₁ = 0xD8 := by
  have h₀ := m₀.toNat_lt
  have h₁ := m₁.toNat_lt
  rw [← UInt16.toNat_inj, ← UInt8.toNat_inj, ← UInt8.toNat_inj, word16, UInt16.toNat_ofNat']
  show (m₀.toNat * 256 + m₁.toNat) % 65536 = 65496 ↔ m₀.toNat = 255 ∧ m₁.toNat = 216
  omega

/-- From any place in a picture the walk by places is the walk over the octets from there on. -/
theorem walkFrom?_eq {b : Bytes} {place : Nat} (hplace : place ≤ b.length)
    (found : List Segment) : walkFrom? b place found =
      some ((walkSegments (b.drop place)).map fun p => (found ++ p.1, b.length - p.2.length)) := by
  -- a slice is the body of the segment at a place, and its end is where the rest begins
  have hbody : ∀ {place n : Nat} {body : Bytes}, ¬n < 2 →
      slice? b (place + 4) (place + 2 + n) = some body →
        (b.drop (place + 4)).take (n - 2) = body := by
    intro place n body hn hslice
    rw [slice?, Option.ite_none_right_eq_some] at hslice
    rw [← Option.some.inj hslice.2, show place + 2 + n - (place + 4) = n - 2 by omega]
  fun_induction walkFrom? b place found with
  | case1 place found htruncated =>
    have hshort : (b.drop place).length < 4 := by
      rw [List.length_drop]
      omega
    rw [walkSegments_of_short hshort]
    rfl
  | case2 place found htruncated marker size hsize hmarker hbad =>
    rw [walkSegments_drop (Nat.not_lt.mp htruncated) hmarker hsize, if_pos hbad]
    rfl
  | case3 place found htruncated marker size hsize hmarker hff hover =>
    rw [walkSegments_drop (Nat.not_lt.mp htruncated) hmarker hsize, if_neg hff, if_pos hover]
    rfl
  | case4 place found htruncated size hsize hover body hslice hmarker hff =>
    rw [walkSegments_drop (Nat.not_lt.mp htruncated) hmarker hsize, if_neg hff, if_neg hover,
      hbody (not_or.mp hover).1 hslice]
    have hend : b.length - (b.drop (place + 2 + size.toNat)).length = place + 2 + size.toNat := by
      rw [List.length_drop]
      omega
    simp only [if_true, Except.map, hend]
  | case5 place found htruncated marker size hsize hmarker hff hover body hslice hsos ih =>
    rw [ih (Nat.not_lt.mp (not_or.mp hover).2),
      walkSegments_drop (Nat.not_lt.mp htruncated) hmarker hsize, if_neg hff, if_neg hover,
      hbody (not_or.mp hover).1 hslice]
    simp only [if_neg hsos]
    rcases walkSegments (b.drop (place + 2 + size.toNat)) with fault | ⟨segments, scan⟩
    · rfl
    · simp [Except.map]
  | case6 place found htruncated marker size hsize hmarker hff hover hslice =>
    -- the segment lies inside, so its body can be sliced out
    rw [slice?, if_pos (by omega)] at hslice
    cases hslice
  | case7 place found htruncated hwords =>
    obtain ⟨m₀, m₁, s₀, s₁, -, hmarker, hsize⟩ := drop_eq_words (Nat.not_lt.mp htruncated)
    exact (hwords _ _ hmarker hsize).elim

/-- **The walk by places reads nothing outside of a picture**, and it is the walk over the octets. -/
theorem walkPlaces?_eq (b : Bytes) :
    walkPlaces? b = some ((walk b).map fun p => (p.1, b.length - p.2.length)) := by
  unfold walkPlaces?
  by_cases hshort : b.length < 4
  · rw [if_pos hshort]
    have hwalk : walk b = .error (.invalidJpeg "missing SOI marker".toList) := by
      unfold walk
      split
      · simp only [List.length_cons] at hshort
        omega
      · rfl
    rw [hwalk]
    rfl
  · obtain ⟨m₀, m₁, s₀, s₁, hdrop, hmarker, -⟩ :=
      drop_eq_words (show 0 + 4 ≤ b.length by omega)
    rw [List.drop_zero] at hdrop
    rw [if_neg hshort, hmarker]
    dsimp only
    by_cases hsoi : word16 m₀ m₁ = 0xFFD8
    · obtain ⟨rfl, rfl⟩ := (word16_eq_soi_iff m₀ m₁).mp hsoi
      have hwalk : walk b = walkSegments (b.drop 2) := by
        rw [hdrop]
        rfl
      rw [if_neg (not_not.mpr hsoi), walkFrom?_eq (by omega), hwalk]
      simp only [List.nil_append]
    · have hwalk : walk b = .error (.invalidJpeg "missing SOI marker".toList) := by
        unfold walk
        split
        · obtain ⟨rfl, htail⟩ := List.cons.inj hdrop
          obtain ⟨rfl, -⟩ := List.cons.inj htail
          exact absurd ((word16_eq_soi_iff _ _).mpr ⟨rfl, rfl⟩) hsoi
        · rfl
      rw [if_pos hsoi, hwalk]
      rfl

/-! ### The grammar by places -/

/-- The walk by places succeeds if and only if there is a head, and it stops behind it. -/
theorem walkPlaces?_eq_ok_iff {b : Bytes} {segments : List Segment} {n : Nat} :
    walkPlaces? b = some (.ok (segments, n)) ↔ Heads b segments n := by
  rw [walkPlaces?_eq, Option.some_inj]
  constructor
  · intro h
    rcases hwalk : walk b with fault | ⟨found, rest⟩
    · rw [hwalk] at h
      cases h
    rw [hwalk] at h
    obtain ⟨rfl, rfl⟩ := Prod.mk.inj (Except.ok.inj h)
    obtain ⟨n, hheads, rfl⟩ := walk_eq_ok_iff_heads.mp hwalk
    have hstop : b.length - (b.drop n).length = n := by
      have := hheads.inside
      rw [List.length_drop]
      omega
    show Heads b found (b.length - (b.drop n).length)
    rw [hstop]
    exact hheads
  · intro hheads
    rw [walk_eq_ok_iff_heads.mpr ⟨n, hheads, rfl⟩]
    have := hheads.inside
    simp only [Except.map, List.length_drop]
    rw [Nat.sub_sub_self this]

/-- **A picture is read by its grammar.**  The walk by places never reads outside of the octets.  It
finds segments up to a place if and only if the octets up to there are SOI and these segments as
they are written, the last of which and no other is SOS, and there is one way at most to see the
octets so.

The parts of a picture are found if and only if there is such a head and the body of each segment
of tables is cut into tables, of 65 octets or of 129, at most two in all.  They are these tables and
what follows the head without one EOI.  And a picture is refused for too many tables only if it
holds more than two. -/
theorem pictures_walked (b : Bytes) :
    walkPlaces? b = some ((walk b).map fun p => (p.1, b.length - p.2.length)) ∧
    (∀ segments n, walkPlaces? b = some (.ok (segments, n)) ↔ Heads b segments n) ∧
    (∀ segments segments' n n', Heads b segments n → Heads b segments' n' →
      segments = segments' ∧ n = n') ∧
    (∀ t : QuantTable, t.Fits ↔ t.write.length = if t.selector >>> 4 = 0 then 65 else 129) ∧
    (∀ scan, Scan.ofPicture b = .ok scan ↔ ∃ segments n parts, Heads b segments n ∧
      List.Forall₂ Segment.Holds (tableSegments segments) parts ∧
      scan.tables = parts.flatten ∧ scan.tables.length ≤ 2 ∧ Closes (b.drop n) scan.data) ∧
    (∀ (p : Packetizer) (time : UInt32) (width height : UInt16) (count : Nat),
      p.packets ⟨time, b, width, height⟩ = .error (.tooManyTables count) ↔
        (width ≤ maxSide ∧ height ≤ maxSide) ∧ Overfull b count) :=
  ⟨walkPlaces?_eq b, fun _ _ => walkPlaces?_eq_ok_iff, fun _ _ _ _ => Heads.unique,
    fun _ => QuantTable.fits_iff, fun _ => Scan.ofPicture_eq_ok_iff,
    fun _ _ _ _ _ => Packetizer.packets_tooMany_iff⟩

/-- The segments of a picture with a table of eight-bit coefficients, behind a segment of another
kind. -/
def plainSegments : List Segment :=
  [⟨0xFFE0, [7]⟩, ⟨quantizationMarker, 0 :: List.replicate 64 1⟩, ⟨scanMarker, []⟩]

/-- The picture of these segments, two octets of scan data and EOI. -/
def plainPicture : Bytes :=
  [0xFF, 0xD8] ++ plainSegments.flatMap Segment.write ++ [1, 2, 0xFF, 0xD9]

theorem plainPicture_walked :
    Heads plainPicture plainSegments 80 ∧
      walkPlaces? plainPicture = some (.ok (plainSegments, 80)) ∧
      (∀ segments n, Heads plainPicture segments n → plainSegments = segments ∧ 80 = n) ∧
      Scan.ofPicture plainPicture = .ok ⟨[⟨0, List.replicate 64 1⟩], [1, 2]⟩ := by
  have hheads : Heads plainPicture plainSegments 80 := by
    refine ⟨by decide, by decide,
      ⟨plainSegments.take 2, ⟨scanMarker, []⟩, rfl, rfl, by decide⟩, ?_⟩
    intro s hs
    have hall : ∀ s ∈ plainSegments, s.marker.toNat / 256 = 255 ∧
        s.body.length + 2 < UInt16.size := by decide
    exact ⟨(hall s hs).1, (hall s hs).2⟩
  have hwalked := pictures_walked plainPicture
  refine ⟨hheads, (hwalked.2.1 _ _).mpr hheads,
    fun segments n h => hwalked.2.2.1 _ _ _ _ hheads h, ?_⟩
  refine (hwalked.2.2.2.2.1 _).mpr ⟨plainSegments, 80, [[⟨0, List.replicate 64 1⟩]], hheads,
    .cons ⟨rfl, ?_⟩ .nil, rfl, by decide, Or.inl (by decide)⟩
  intro t ht
  rw [List.mem_singleton.mp ht]
  rfl

end Jpeg

end RtspServer
