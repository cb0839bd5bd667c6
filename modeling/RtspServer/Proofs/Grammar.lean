/-
RtspServer/Proofs/Grammar.lean

The grammar of a picture.  Reading takes exactly what writing produces: the head
of a picture is SOI and segments up to SOS (`walk_eq_ok_iff`), the body of a
segment of tables is tables one after the other (`readTables_eq_ok_iff`), and the
parts of a picture are the tables of all such segments and the scan data without
one EOI (`Scan.ofPicture_eq_ok_iff`).

What is refused for its tables has more than two of them: the segments of tables
up to the one that goes too far can all be read (`Scan.ofPicture_tooMany_iff`).
-/
import RtspServer.Proofs.Anatomy
import RtspServer.Jpeg.Packetizer
import Mathlib.Data.List.Forall2

namespace RtspServer

namespace Jpeg

/-! ### Segments -/

/-- A segment that can be written begins with its marker and its length. -/
theorem Segment.Fits.write_eq {s : Segment} (h : s.Fits) : ∃ m₁ s₀ s₁ : UInt8,
    s.write = 0xFF :: m₁ :: s₀ :: s₁ :: s.body ∧ word16 0xFF m₁ = s.marker ∧
      (word16 s₀ s₁).toNat = s.body.length + 2 := by
  have hfirst : UInt8.ofNat (s.marker.toNat / 256) = 0xFF := by
    rw [h.marker]
    rfl
  have hlength : (UInt16.ofNat (s.body.length + 2)).toNat = s.body.length + 2 :=
    UInt16.toNat_ofNat_of_lt' h.body
  refine ⟨UInt8.ofNat s.marker.toNat, _, _, ?_, ?_,
    (congrArg UInt16.toNat (word16_octets16 _)).trans hlength⟩
  · rw [Segment.write, octets16, hfirst]
    rfl
  · rw [← hfirst]
    exact word16_octets16 s.marker

/-- A segment that is written is read, and then what follows it. -/
theorem walkSegments_write {s : Segment} (h : s.Fits) (rest : Bytes) :
    walkSegments (s.write ++ rest) =
      if s.marker = scanMarker then .ok ([s], rest)
      else
        match walkSegments rest with
        | .ok (segments, scan) => .ok (s :: segments, scan)
        | .error fault => .error fault := by
  obtain ⟨m₁, s₀, s₁, hwrite, hmarker, hsize⟩ := h.write_eq
  have htake : (s.body ++ rest).take ((word16 s₀ s₁).toNat - 2) = s.body := by
    rw [hsize, Nat.add_sub_cancel, List.take_left]
  have hdrop : (s.body ++ rest).drop ((word16 s₀ s₁).toNat - 2) = rest := by
    rw [hsize, Nat.add_sub_cancel, List.drop_left]
  rw [hwrite]
  simp only [List.cons_append]
  rw [walkSegments]
  simp only [htake, hdrop, hmarker]
  exact (if_neg (by decide)).trans (if_neg (by omega))

theorem walkSegments_flatMap {segments : List Segment} (hends : EndsWithScan segments)
    (hfits : ∀ s ∈ segments, s.Fits) (rest : Bytes) :
    walkSegments (segments.flatMap Segment.write ++ rest) = .ok (segments, rest) := by
  obtain ⟨before, sos, rfl, hsos, hbefore⟩ := hends
  induction before with
  | nil =>
    have hfit : sos.Fits := hfits sos List.mem_cons_self
    rw [List.nil_append, List.flatMap_singleton, walkSegments_write hfit, if_pos hsos]
  | cons s before ih =>
    obtain ⟨hs, hbefore⟩ := List.forall_mem_cons.mp hbefore
    obtain ⟨hfit, hfits⟩ := List.forall_mem_cons.mp hfits
    rw [List.cons_append, List.flatMap_cons, List.append_assoc, walkSegments_write hfit,
      if_neg hs, ih hfits hbefore]

/-- **The head of a picture** is SOI and segments of which the last and no other is SOS. -/
theorem walk_eq_ok_iff {picture rest : Bytes} {segments : List Segment} :
    walk picture = .ok (segments, rest) ↔
      picture = [0xFF, 0xD8] ++ segments.flatMap Segment.write ++ rest ∧ EndsWithScan segments ∧
        ∀ s ∈ segments, s.Fits := by
  refine ⟨of_walk, ?_⟩
  rintro ⟨rfl, hends, hfits⟩
  have hwalk := walkSegments_flatMap hends hfits rest
  -- there is at least one segment, so at least four octets follow SOI
  obtain ⟨a, b, tail, hhead⟩ : ∃ a b tail,
      segments.flatMap Segment.write ++ rest = a :: b :: tail := by
    obtain ⟨before, sos, rfl, -, -⟩ := hends
    obtain ⟨first, more, hmore⟩ := List.exists_cons_of_ne_nil
      (List.append_ne_nil_of_right_ne_nil before (List.cons_ne_nil sos []))
    rw [hmore] at hfits ⊢
    obtain ⟨m₁, s₀, s₁, hwrite, -, -⟩ := (hfits first List.mem_cons_self).write_eq
    exact ⟨0xFF, m₁, _, by rw [List.flatMap_cons, hwrite]; rfl⟩
  rw [List.append_assoc, hhead]
  show walkSegments (a :: b :: tail) = _
  rw [← hhead]
  exact hwalk

/-- The first octets of a picture are its head: SOI and segments, the last of which, and no other, is
SOS. -/
structure Heads (picture : Bytes) (segments : List Segment) (n : Nat) : Prop where
  inside : n ≤ picture.length
  octets : picture.take n = [0xFF, 0xD8] ++ segments.flatMap Segment.write
  ends : EndsWithScan segments
  fits : ∀ s ∈ segments, s.Fits

theorem walk_eq_ok_iff_heads {picture rest : Bytes} {segments : List Segment} :
    walk picture = .ok (segments, rest) ↔ ∃ n, Heads picture segments n ∧ rest = picture.drop n := by
  rw [walk_eq_ok_iff]
  constructor
  · rintro ⟨rfl, hends, hfits⟩
    exact ⟨([0xFF, 0xD8] ++ segments.flatMap Segment.write).length,
      ⟨by simp, by rw [List.take_left], hends, hfits⟩, by rw [List.drop_left]⟩
  · rintro ⟨n, hheads, rfl⟩
    exact ⟨by rw [← hheads.octets, List.take_append_drop], hheads.ends, hheads.fits⟩

/-- A picture has one head. -/
theorem Heads.unique {picture : Bytes} {segments segments' : List Segment} {n n' : Nat}
    (h : Heads picture segments n) (h' : Heads picture segments' n') :
    segments = segments' ∧ n = n' := by
  have hwalk := walk_eq_ok_iff_heads.mpr ⟨n, h, rfl⟩
  have hwalk' := walk_eq_ok_iff_heads.mpr ⟨n', h', rfl⟩
  obtain ⟨hsegments, hrest⟩ := Prod.mk.inj (Except.ok.inj (hwalk.symm.trans hwalk'))
  refine ⟨hsegments, ?_⟩
  have hlength := congrArg List.length hrest
  rw [List.length_drop, List.length_drop] at hlength
  have hinside := h.inside
  have hinside' := h'.inside
  omega

/-- What has no head is refused as no JPEG picture. -/
theorem walkSegments_error {b : Bytes} {fault : Fault} (h : walkSegments b = .error fault) :
    ∃ detail, fault = .invalidJpeg detail := by
  fun_induction walkSegments b with
  | case1 => exact ⟨_, (Except.error.inj h).symm⟩
  | case2 => exact ⟨_, (Except.error.inj h).symm⟩
  | case3 => cases h
  | case4 => cases h
  | case5 m₀ m₁ s₀ s₁ rest size body hm hsize segment hsos other hother ih =>
    obtain rfl := Except.error.inj h
    exact ih hother
  | case6 => exact ⟨_, (Except.error.inj h).symm⟩

theorem walk_error {picture : Bytes} {fault : Fault} (h : walk picture = .error fault) :
    ∃ detail, fault = .invalidJpeg detail := by
  unfold walk at h
  split at h
  · exact walkSegments_error h
  · exact ⟨_, (Except.error.inj h).symm⟩

/-! ### Tables -/

theorem readTables_flatMap {tables : List QuantTable} (hfits : ∀ t ∈ tables, t.Fits) :
    readTables (tables.flatMap QuantTable.write) = .ok tables := by
  induction tables with
  | nil => rw [List.flatMap_nil, readTables]
  | cons t tables ih =>
    obtain ⟨hfit, hfits⟩ := List.forall_mem_cons.mp hfits
    have htake : (t.coefficients ++ tables.flatMap QuantTable.write).take
        (coefficientSize t.selector) = t.coefficients := by
      rw [← hfit, List.take_left]
    have hdrop : (t.coefficients ++ tables.flatMap QuantTable.write).drop
        (coefficientSize t.selector) = tables.flatMap QuantTable.write := by
      rw [← hfit, List.drop_left]
    rw [List.flatMap_cons, QuantTable.write, List.cons_append, readTables]
    simp only [htake, hdrop, ih hfits]
    rw [if_neg (Nat.not_lt.mpr (Nat.le_of_eq hfit.symm))]

/-- The body of a segment of tables is tables one after the other. -/
theorem readTables_eq_ok_iff {b : Bytes} {tables : List QuantTable} :
    readTables b = .ok tables ↔ b = tables.flatMap QuantTable.write ∧ ∀ t ∈ tables, t.Fits := by
  refine ⟨of_readTables, ?_⟩
  rintro ⟨rfl, hfits⟩
  exact readTables_flatMap hfits

theorem readTables_error {b : Bytes} {fault : Fault} (h : readTables b = .error fault) :
    ∃ detail, fault = .invalidJpeg detail := by
  fun_induction readTables b with
  | case1 => cases h
  | case2 => exact ⟨_, (Except.error.inj h).symm⟩
  | case3 => cases h
  | case4 selector rest coefficients hsize other hother ih =>
    obtain rfl := Except.error.inj h
    exact ih hother

/-- A table has 65 octets if the high half of its selector is zero, and 129 if it is not. -/
theorem QuantTable.fits_iff {t : QuantTable} :
    t.Fits ↔ t.write.length = if t.selector >>> 4 = 0 then 65 else 129 := by
  unfold QuantTable.Fits coefficientSize QuantTable.write
  rw [List.length_cons]
  split <;> exact Nat.succ_inj.symm

/-- The body of a segment is cut into tables, with nothing left over. -/
structure Segment.Holds (s : Segment) (tables : List QuantTable) : Prop where
  body : s.body = tables.flatMap QuantTable.write
  fits : ∀ t ∈ tables, t.Fits

theorem readTables_body_iff {s : Segment} {tables : List QuantTable} :
    readTables s.body = .ok tables ↔ s.Holds tables :=
  readTables_eq_ok_iff.trans ⟨fun h => ⟨h.1, h.2⟩, fun h => ⟨h.body, h.fits⟩⟩

/-- A segment whose tables can be read adds them, unless there are too many then. -/
theorem addTables_of_holds {s : Segment} {more : List QuantTable} (h : s.Holds more)
    (tables : List QuantTable) :
    addTables tables s =
      if 2 < (tables ++ more).length then .error (.tooManyTables (tables ++ more).length)
      else .ok (tables ++ more) := by
  rw [addTables, readTables_body_iff.mpr h]

/-- A segment whose tables cannot be read is no segment of a JPEG picture. -/
theorem addTables_of_not_holds {s : Segment} (h : ∀ more, ¬s.Holds more)
    (tables : List QuantTable) : ∃ detail, addTables tables s = .error (.invalidJpeg detail) := by
  rcases hread : readTables s.body with fault | more
  · obtain ⟨detail, rfl⟩ := readTables_error hread
    exact ⟨detail, by rw [addTables, hread]⟩
  · exact absurd (readTables_body_iff.mp hread) (h more)

/-- Segments that can be read add their tables, as long as there are at most two. -/
theorem foldlM_addTables_of_holds {segments : List Segment} {parts : List (List QuantTable)}
    (h : List.Forall₂ Segment.Holds segments parts) {before : List QuantTable}
    (hfew : (before ++ parts.flatten).length ≤ 2) :
    segments.foldlM addTables before = .ok (before ++ parts.flatten) := by
  induction h generalizing before with
  | nil =>
    rw [List.flatten_nil, List.append_nil]
    rfl
  | @cons s more segments parts hmore _ ih =>
    rw [List.flatten_cons, ← List.append_assoc] at hfew ⊢
    have hnow : ¬2 < (before ++ more).length := by
      rw [List.length_append] at hfew
      omega
    rw [List.foldlM_cons, addTables_of_holds hmore, if_neg hnow]
    exact ih hfew

/-- What comes of segments is settled by the one that follows those that have added their tables,
if it is an error. -/
theorem foldlM_addTables_of_error {front : List Segment} {parts : List (List QuantTable)}
    (h : List.Forall₂ Segment.Holds front parts) {before : List QuantTable}
    (hfew : (before ++ parts.flatten).length ≤ 2) {s : Segment} {fault : Fault}
    (hs : addTables (before ++ parts.flatten) s = .error fault) (back : List Segment) :
    (front ++ s :: back).foldlM addTables before = .error fault := by
  rw [List.foldlM_append, foldlM_addTables_of_holds h hfew]
  show (s :: back).foldlM addTables (before ++ parts.flatten) = .error fault
  rw [List.foldlM_cons, hs]
  rfl

/-- Segments can all be read and hold two tables at most, or there is a first one where it ends: with
it there are too many, or it cannot be read. -/
theorem tables_cases (segments : List Segment) (before : List QuantTable)
    (htwo : before.length ≤ 2) :
    (∃ parts, List.Forall₂ Segment.Holds segments parts ∧ (before ++ parts.flatten).length ≤ 2) ∨
    ∃ front s back parts, segments = front ++ s :: back ∧
      List.Forall₂ Segment.Holds front parts ∧ (before ++ parts.flatten).length ≤ 2 ∧
      ((∃ more, s.Holds more ∧ 2 < (before ++ parts.flatten ++ more).length) ∨
        ∀ more, ¬s.Holds more) := by
  induction segments generalizing before with
  | nil => exact .inl ⟨[], .nil, by rwa [List.flatten_nil, List.append_nil]⟩
  | cons s segments ih =>
    have hhere : (before ++ ([] : List (List QuantTable)).flatten).length ≤ 2 := by
      rwa [List.flatten_nil, List.append_nil]
    by_cases hs : ∃ more, s.Holds more
    · obtain ⟨more, hmore⟩ := hs
      by_cases hmany : 2 < (before ++ more).length
      · refine .inr ⟨[], s, segments, [], rfl, .nil, hhere, .inl ⟨more, hmore, ?_⟩⟩
        rwa [List.flatten_nil, List.append_nil]
      · have hassoc : ∀ parts : List (List QuantTable),
            before ++ (more :: parts).flatten = before ++ more ++ parts.flatten := fun parts => by
          rw [List.flatten_cons, List.append_assoc]
        rcases ih (before ++ more) (Nat.not_lt.mp hmany) with
          ⟨parts, hparts, hfew⟩ | ⟨front, t, back, parts, rfl, hparts, hfew, hend⟩
        · exact .inl ⟨more :: parts, .cons hmore hparts, by rwa [hassoc]⟩
        · exact .inr ⟨s :: front, t, back, more :: parts, rfl, .cons hmore hparts,
            by rwa [hassoc], by rwa [hassoc]⟩
    · exact .inr ⟨[], s, segments, [], rfl, .nil, hhere, .inr (not_exists.mp hs)⟩

/-- The tables of segments are collected if all of them can be read and there are at most two. -/
theorem foldlM_addTables_eq_ok_iff (segments : List Segment) (tables : List QuantTable) :
    segments.foldlM addTables [] = .ok tables ↔
      ∃ parts, List.Forall₂ Segment.Holds segments parts ∧ tables = parts.flatten ∧
        tables.length ≤ 2 := by
  constructor
  · intro h
    rcases tables_cases segments [] (Nat.zero_le 2) with
      ⟨parts, hparts, hfew⟩ | ⟨front, s, back, parts, rfl, hparts, hfew, hend⟩
    · rw [foldlM_addTables_of_holds hparts hfew] at h
      obtain rfl := Except.ok.inj h
      exact ⟨parts, hparts, rfl, hfew⟩
    · obtain ⟨fault, hfault⟩ : ∃ fault, addTables ([] ++ parts.flatten) s = .error fault := by
        rcases hend with ⟨more, hmore, hmany⟩ | hno
        · exact ⟨_, (addTables_of_holds hmore _).trans (if_pos hmany)⟩
        · obtain ⟨detail, hfault⟩ := addTables_of_not_holds hno ([] ++ parts.flatten)
          exact ⟨_, hfault⟩
      rw [foldlM_addTables_of_error hparts hfew hfault] at h
      cases h
  · rintro ⟨parts, hparts, rfl, hfew⟩
    exact foldlM_addTables_of_holds hparts hfew

/-- Tables are too many as soon as one segment brings more than two of them together: those before
it can be read and hold at most two, and it can be read as well. -/
theorem foldlM_addTables_tooMany_iff (segments : List Segment) (count : Nat) :
    segments.foldlM addTables [] = .error (.tooManyTables count) ↔
      ∃ front s back parts more, segments = front ++ s :: back ∧
        List.Forall₂ Segment.Holds front parts ∧ s.Holds more ∧ parts.flatten.length ≤ 2 ∧
        2 < count ∧ count = parts.flatten.length + more.length := by
  constructor
  · intro h
    rcases tables_cases segments [] (Nat.zero_le 2) with
      ⟨parts, hparts, hfew⟩ | ⟨front, s, back, parts, rfl, hparts, hfew, hend⟩
    · rw [foldlM_addTables_of_holds hparts hfew] at h
      cases h
    · rcases hend with ⟨more, hmore, hmany⟩ | hno
      · have hfault := (addTables_of_holds hmore ([] ++ parts.flatten)).trans (if_pos hmany)
        rw [foldlM_addTables_of_error hparts hfew hfault] at h
        obtain rfl := Fault.tooManyTables.inj (Except.error.inj h)
        exact ⟨front, s, back, parts, more, rfl, hparts, hmore, hfew, hmany, List.length_append⟩
      · obtain ⟨detail, hfault⟩ := addTables_of_not_holds hno ([] ++ parts.flatten)
        rw [foldlM_addTables_of_error hparts hfew hfault] at h
        cases Except.error.inj h
  · rintro ⟨front, s, back, parts, more, rfl, hparts, hmore, hfew, hcount, rfl⟩
    have hlength : ([] ++ parts.flatten ++ more).length = parts.flatten.length + more.length :=
      List.length_append
    refine foldlM_addTables_of_error hparts hfew ?_ back
    rw [addTables_of_holds hmore, hlength, if_pos hcount]

/-! ### Pictures -/

/-- The segments of tables. -/
def tableSegments (segments : List Segment) : List Segment :=
  segments.filter fun s => s.marker == quantizationMarker

/-- Scan data is what follows the head, without one EOI at the end if there is one. -/
def Closes (rest data : Bytes) : Prop :=
  rest = data ++ endMarker ∨ (rest = data ∧ ¬endMarker <:+ rest)

theorem dropEnd_eq_iff {rest data : Bytes} : dropEnd rest = data ↔ Closes rest data := by
  constructor
  · rintro rfl
    rcases dropEnd_cases rest with h | ⟨h, hno⟩
    · exact Or.inl h
    · rw [List.append_nil] at h
      exact Or.inr ⟨h, h ▸ hno⟩
  · rintro (rfl | ⟨rfl, hno⟩)
    · unfold dropEnd
      rw [if_pos (by simp [endMarker])]
      simp [endMarker]
    · rcases dropEnd_cases rest with h | ⟨h, -⟩
      · exact absurd ⟨_, h.symm⟩ hno
      · exact (h.trans (List.append_nil _)).symm

/-- The parts of a picture, one after the other. -/
theorem Scan.ofPicture_eq (picture : Bytes) :
    Scan.ofPicture picture = (walk picture).bind fun p =>
      ((tableSegments p.1).foldlM addTables []).bind fun tables =>
        .ok ⟨tables, dropEnd p.2⟩ := rfl

/-- **A picture is taken apart** if it has a head, its segments of tables can be read and there are
at most two tables. -/
theorem Scan.ofPicture_eq_ok_iff {picture : Bytes} {scan : Scan} :
    Scan.ofPicture picture = .ok scan ↔ ∃ segments n parts, Heads picture segments n ∧
      List.Forall₂ Segment.Holds (tableSegments segments) parts ∧
      scan.tables = parts.flatten ∧ scan.tables.length ≤ 2 ∧
      Closes (picture.drop n) scan.data := by
  rw [Scan.ofPicture_eq]
  rcases hwalk : walk picture with fault | ⟨segments, rest⟩
  · refine ⟨fun h => absurd h nofun, ?_⟩
    rintro ⟨segments, n, parts, hheads, -⟩
    exact absurd (hwalk.symm.trans (walk_eq_ok_iff_heads.mpr ⟨n, hheads, rfl⟩)) nofun
  obtain ⟨n, hheads, rfl⟩ := walk_eq_ok_iff_heads.mp hwalk
  show ((tableSegments segments).foldlM addTables []).bind _ = _ ↔ _
  have htables := foldlM_addTables_eq_ok_iff (tableSegments segments)
  constructor
  · intro h
    rcases hfold : (tableSegments segments).foldlM addTables [] with fault | tables
    · rw [hfold] at h
      cases h
    rw [hfold] at h
    obtain rfl := Except.ok.inj h
    obtain ⟨parts, hparts, htables, hfew⟩ := (htables tables).mp hfold
    exact ⟨segments, n, parts, hheads, hparts, htables, hfew, dropEnd_eq_iff.mp rfl⟩
  · rintro ⟨segments', n', parts, hheads', hparts, hflatten, hfew, hcloses⟩
    obtain ⟨rfl, rfl⟩ := hheads.unique hheads'
    rw [(htables scan.tables).mpr ⟨parts, hparts, hflatten, hfew⟩]
    show Except.ok (Scan.mk scan.tables (dropEnd (picture.drop n))) = _
    rw [dropEnd_eq_iff.mpr hcloses]

/-- A picture with a head holds more than two tables: the segments of tables, up to one, can be
read, and with that one they make so many tables, two of which at most come before it. -/
def Overfull (picture : Bytes) (count : Nat) : Prop :=
  ∃ segments n front s back parts more, Heads picture segments n ∧
    tableSegments segments = front ++ s :: back ∧ List.Forall₂ Segment.Holds front parts ∧
    s.Holds more ∧ parts.flatten.length ≤ 2 ∧ 2 < count ∧
    count = parts.flatten.length + more.length

theorem Scan.ofPicture_tooMany_iff {picture : Bytes} {count : Nat} :
    Scan.ofPicture picture = .error (.tooManyTables count) ↔ Overfull picture count := by
  rw [Scan.ofPicture_eq]
  rcases hwalk : walk picture with fault | ⟨segments, rest⟩
  · obtain ⟨detail, rfl⟩ := walk_error hwalk
    refine ⟨fun h => absurd (Except.error.inj h) nofun, ?_⟩
    rintro ⟨segments, n, _, _, _, _, _, hheads, -⟩
    exact absurd (hwalk.symm.trans (walk_eq_ok_iff_heads.mpr ⟨n, hheads, rfl⟩)) nofun
  obtain ⟨n, hheads, rfl⟩ := walk_eq_ok_iff_heads.mp hwalk
  show ((tableSegments segments).foldlM addTables []).bind _ = _ ↔ _
  have htooMany := foldlM_addTables_tooMany_iff (tableSegments segments) count
  constructor
  · intro h
    rcases hfold : (tableSegments segments).foldlM addTables [] with fault | tables
    · rw [hfold] at h
      obtain rfl := Except.error.inj h
      obtain ⟨front, s, back, parts, more, heq, hparts, hmore, hfew, hcount, hlength⟩ :=
        htooMany.mp hfold
      exact ⟨segments, n, front, s, back, parts, more, hheads, heq, hparts, hmore, hfew, hcount,
        hlength⟩
    · rw [hfold] at h
      cases h
  · rintro ⟨segments', n', front, s, back, parts, more, hheads', hsplit, hparts, hmore, hfew,
      hcount, hlength⟩
    obtain ⟨rfl, rfl⟩ := hheads.unique hheads'
    rw [htooMany.mpr ⟨front, s, back, parts, more, hsplit, hparts, hmore, hfew, hcount, hlength⟩]
    rfl

/-- A picture of a size that can be sent is refused for its tables if it holds too many. -/
theorem Packetizer.packets_tooMany_iff {p : Packetizer} {picture : Picture} {count : Nat} :
    p.packets picture = .error (.tooManyTables count) ↔
      (picture.width ≤ maxSide ∧ picture.height ≤ maxSide) ∧ Overfull picture.data count := by
  rw [← Scan.ofPicture_tooMany_iff, Packetizer.packets]
  by_cases hlarge : maxSide < picture.width ∨ maxSide < picture.height
  · rw [if_pos hlarge]
    refine ⟨fun h => absurd (Except.error.inj h) nofun, ?_⟩
    rintro ⟨⟨hwidth, hheight⟩, -⟩
    rcases hlarge with h | h
    · exact absurd hwidth (UInt16.not_le.mpr h)
    · exact absurd hheight (UInt16.not_le.mpr h)
  · rw [if_neg hlarge]
    have hsize : picture.width ≤ maxSide ∧ picture.height ≤ maxSide := by
      obtain ⟨hwidth, hheight⟩ := not_or.mp hlarge
      exact ⟨UInt16.not_lt.mp hwidth, UInt16.not_lt.mp hheight⟩
    rcases Scan.ofPicture picture.data with fault | scan
    · exact ⟨fun h => ⟨hsize, congrArg Except.error (Except.error.inj h)⟩,
        fun h => congrArg Except.error (Except.error.inj h.2)⟩
    · refine ⟨fun h => ?_, fun h => absurd h.2 nofun⟩
      dsimp only at h
      split at h
      · exact absurd (Except.error.inj h) nofun
      · split at h
        · exact absurd (Except.error.inj h) nofun
        · cases h

end Jpeg

end RtspServer
