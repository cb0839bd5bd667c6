/-
RtspServer/Proofs/Anatomy.lean

What a picture is made of.  Where `Scan.ofPicture` gives the tables and the scan
data of a picture, these stand in it as octets (`Scan.made_of_ofPicture`): SOI,
segments of which the last and no other is SOS, the scan data, and EOI if the
scan data do not end with one by themselves.  The tables are what the segments
of tables hold, cut where their selectors say, and there are at most two.
-/
import RtspServer.Jpeg.Scan
import Mathlib.Data.List.Basic

namespace RtspServer

namespace Jpeg

/-! ### Segments -/

/-- A segment that can be written: its marker begins with FF and its length has sixteen bits. -/
structure Segment.Fits (s : Segment) : Prop where
  marker : s.marker.toNat / 256 = 255
  body : s.body.length + 2 < UInt16.size

/-- The last segment, and no other, is SOS. -/
def EndsWithScan (segments : List Segment) : Prop :=
  ∃ before sos, segments = before ++ [sos] ∧ sos.marker = scanMarker ∧
    ∀ s ∈ before, s.marker ≠ scanMarker

theorem EndsWithScan.cons {segments : List Segment} (h : EndsWithScan segments) {s : Segment}
    (hs : s.marker ≠ scanMarker) : EndsWithScan (s :: segments) := by
  obtain ⟨before, sos, rfl, hsos, hbefore⟩ := h
  exact ⟨s :: before, sos, rfl, hsos, List.forall_mem_cons.mpr ⟨hs, hbefore⟩⟩

/-- A segment that is read can be written, and is then what was read. -/
theorem Segment.write_of_take {m₀ s₀ s₁ : UInt8} {rest : Bytes} (m₁ : UInt8) (hm : m₀ = 0xFF)
    (hsize : ¬((word16 s₀ s₁).toNat < 2 ∨
      (rest.take ((word16 s₀ s₁).toNat - 2)).length < (word16 s₀ s₁).toNat - 2)) :
    let s : Segment := ⟨word16 m₀ m₁, rest.take ((word16 s₀ s₁).toNat - 2)⟩
    s.Fits ∧ m₀ :: m₁ :: s₀ :: s₁ :: rest =
      s.write ++ rest.drop ((word16 s₀ s₁).toNat - 2) := by
  intro s
  have hlt := (word16 s₀ s₁).toNat_lt
  have hlength : s.body.length + 2 = (word16 s₀ s₁).toNat := by
    have htake := List.length_take_le ((word16 s₀ s₁).toNat - 2) rest
    show (rest.take ((word16 s₀ s₁).toNat - 2)).length + 2 = _
    omega
  refine ⟨⟨?_, hlength ▸ hlt⟩, ?_⟩
  · have := m₁.toNat_lt
    show (UInt16.ofNat (m₀.toNat * 256 + m₁.toNat)).toNat / 256 = 255
    rw [hm, UInt16.toNat_ofNat']
    show (255 * 256 + m₁.toNat) % 65536 / 256 = 255
    omega
  · have hword : UInt16.ofNat (s.body.length + 2) = word16 s₀ s₁ := by
      rw [hlength, UInt16.ofNat_toNat]
    have hwrite : s.write = m₀ :: m₁ :: s₀ :: s₁ :: s.body := by
      rw [Segment.write, hword, octets16_word16, octets16_word16]
      rfl
    rw [hwrite]
    simp only [List.cons_append, s, List.take_append_drop]

/-- What is walked over are segments, one after the other, up to SOS. -/
theorem of_walkSegments {b rest : Bytes} {segments : List Segment}
    (h : walkSegments b = .ok (segments, rest)) :
    b = segments.flatMap Segment.write ++ rest ∧ EndsWithScan segments ∧
      ∀ s ∈ segments, s.Fits := by
  fun_induction walkSegments b generalizing segments rest with
  | case1 => cases h
  | case2 => cases h
  | case3 m₀ m₁ s₀ s₁ after size body hm hsize =>
    rename_i segment hsos
    obtain ⟨rfl, rfl⟩ := Prod.mk.inj (Except.ok.inj h)
    obtain ⟨hfits, heq⟩ := Segment.write_of_take m₁ (not_not.mp hm) hsize
    refine ⟨?_, ⟨[], segment, rfl, hsos, by simp⟩, by simpa using hfits⟩
    rw [List.flatMap_singleton]
    exact heq
  | case4 m₀ m₁ s₀ s₁ after size body hm hsize segment hsos more scan =>
    rename_i hwalk ih
    obtain ⟨rfl, rfl⟩ := Prod.mk.inj (Except.ok.inj h)
    obtain ⟨hfits, heq⟩ := Segment.write_of_take m₁ (not_not.mp hm) hsize
    obtain ⟨hrest, hends, hall⟩ := ih hwalk
    refine ⟨?_, hends.cons hsos, List.forall_mem_cons.mpr ⟨hfits, hall⟩⟩
    rw [List.flatMap_cons, List.append_assoc, ← hrest]
    exact heq
  | case5 => cases h
  | case6 => cases h

theorem of_walk {picture rest : Bytes} {segments : List Segment}
    (h : walk picture = .ok (segments, rest)) :
    picture = [0xFF, 0xD8] ++ segments.flatMap Segment.write ++ rest ∧ EndsWithScan segments ∧
      ∀ s ∈ segments, s.Fits := by
  unfold walk at h
  split at h
  · obtain ⟨heq, hends, hfits⟩ := of_walkSegments h
    rw [heq]
    exact ⟨rfl, hends, hfits⟩
  · cases h

/-! ### Tables -/

/-- A table as it stands in a segment. -/
def QuantTable.write (t : QuantTable) : Bytes := t.selector :: t.coefficients

/-- A table with as many coefficients as its selector says. -/
def QuantTable.Fits (t : QuantTable) : Prop := t.coefficients.length = coefficientSize t.selector

/-- What is read of a segment of tables are all its tables. -/
theorem of_readTables {b : Bytes} {tables : List QuantTable} (h : readTables b = .ok tables) :
    b = tables.flatMap QuantTable.write ∧ ∀ t ∈ tables, t.Fits := by
  fun_induction readTables b generalizing tables with
  | case1 =>
    obtain rfl := Except.ok.inj h
    exact ⟨rfl, by simp⟩
  | case2 => cases h
  | case3 selector rest coefficients hsize more hmore =>
    rename_i ih
    obtain rfl := Except.ok.inj h
    obtain ⟨hrest, hall⟩ := ih hmore
    have hfits : (QuantTable.mk selector coefficients).Fits := by
      have htake := List.length_take_le (coefficientSize selector) rest
      exact Nat.le_antisymm htake (Nat.not_lt.mp hsize)
    refine ⟨?_, List.forall_mem_cons.mpr ⟨hfits, hall⟩⟩
    rw [List.flatMap_cons, ← hrest]
    show selector :: rest = selector :: (rest.take _ ++ rest.drop _)
    rw [List.take_append_drop]
  | case4 => cases h

/-- Tables that are collected from segments are those in their bodies, at most two. -/
theorem of_foldlM_addTables {segments : List Segment} {before tables : List QuantTable}
    (h : segments.foldlM addTables before = .ok tables) (hfits : ∀ t ∈ before, t.Fits)
    (htwo : before.length ≤ 2) :
    tables.flatMap QuantTable.write =
        before.flatMap QuantTable.write ++ segments.flatMap (·.body) ∧
      (∀ t ∈ tables, t.Fits) ∧ tables.length ≤ 2 := by
  induction segments generalizing before with
  | nil =>
    obtain rfl := Except.ok.inj h
    exact ⟨by simp, hfits, htwo⟩
  | cons s rest ih =>
    rw [List.foldlM_cons] at h
    rcases hs : addTables before s with fault | mid
    · rw [hs] at h
      cases h
    rw [hs] at h
    -- the tables of this segment come after those that are there
    unfold addTables at hs
    split at hs
    · next more hread =>
      obtain ⟨hbody, hmore⟩ := of_readTables hread
      split at hs
      · cases hs
      · next hsmall =>
        obtain rfl := Except.ok.inj hs
        have hmid : ∀ t ∈ before ++ more, t.Fits := fun t ht =>
          (List.mem_append.mp ht).elim (hfits t) (hmore t)
        obtain ⟨heq, hall, hlength⟩ := ih h hmid (Nat.not_lt.mp hsmall)
        refine ⟨?_, hall, hlength⟩
        rw [heq, List.flatMap_append, List.flatMap_cons, hbody, List.append_assoc]
    · cases hs

/-! ### Pictures -/

/-- The marker at the end of a picture. -/
def endMarker : Bytes := [0xFF, 0xD9]

/-- A picture is made of segments, which hold some tables, of scan data and of what comes after
them. -/
structure Made (picture : Bytes) (segments : List Segment) (scan : Scan) (tail : Bytes) :
    Prop where
  octets : picture = [0xFF, 0xD8] ++ segments.flatMap Segment.write ++ (scan.data ++ tail)
  ends : EndsWithScan segments
  fits : ∀ s ∈ segments, s.Fits
  /-- The scan data ends before the last EOI, or with the picture if there is none. -/
  tail : tail = endMarker ∨ (tail = [] ∧ ¬endMarker <:+ scan.data)
  bodies : (segments.filter fun s => s.marker == quantizationMarker).flatMap (·.body) =
    scan.tables.flatMap QuantTable.write
  tables : ∀ t ∈ scan.tables, t.Fits
  few : scan.tables.length ≤ 2

/-- One EOI at the end is left out. -/
theorem dropEnd_cases (data : Bytes) :
    (data = dropEnd data ++ endMarker) ∨ (data = dropEnd data ++ [] ∧ ¬endMarker <:+ dropEnd data) := by
  unfold dropEnd
  split
  · next hend =>
    left
    show data = _ ++ [0xFF, 0xD9]
    rw [← hend, List.take_append_drop]
  · next hend =>
    refine Or.inr ⟨(List.append_nil _).symm, ?_⟩
    rintro ⟨front, rfl⟩
    exact hend (by simp [endMarker])

/-- **The parts of a picture stand in it.** -/
theorem Scan.made_of_ofPicture {picture : Bytes} {scan : Scan}
    (h : Scan.ofPicture picture = .ok scan) :
    ∃ segments tail, Made picture segments scan tail := by
  unfold Scan.ofPicture at h
  rcases hw : walk picture with fault | ⟨segments, rest⟩
  · rw [hw] at h
    cases h
  rw [hw] at h
  rcases ht : (segments.filter fun s => s.marker == quantizationMarker).foldlM addTables [] with
    fault | tables
  · simp only [bind, Except.bind, ht] at h
    cases h
  simp only [bind, Except.bind, ht, pure, Except.pure] at h
  obtain rfl := Except.ok.inj h
  obtain ⟨hpicture, hends, hsegments⟩ := of_walk hw
  obtain ⟨hbodies, htables, hfew⟩ := of_foldlM_addTables ht (by simp) (by simp)
  -- what follows SOS is the scan data and perhaps EOI
  obtain ⟨tail, hrest, htail⟩ : ∃ tail, rest = dropEnd rest ++ tail ∧
      (tail = endMarker ∨ (tail = [] ∧ ¬endMarker <:+ dropEnd rest)) := by
    rcases dropEnd_cases rest with heq | ⟨heq, hno⟩
    · exact ⟨_, heq, Or.inl rfl⟩
    · exact ⟨_, heq, Or.inr ⟨rfl, hno⟩⟩
  refine ⟨segments, tail, ?_, hends, hsegments, htail, ?_, htables, hfew⟩
  · rw [← hrest]
    exact hpicture
  · exact hbodies.symm

end Jpeg

end RtspServer
