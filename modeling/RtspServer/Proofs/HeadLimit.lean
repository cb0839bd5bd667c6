/-
RtspServer/Proofs/HeadLimit.lean

How much is read for a head.  The head of a request is what stands in front of
the end of the first empty line (`IsHeadEnd`), and it is read as that if it has
16384 octets at most.  Otherwise exactly 16384 octets are read and given up, or
the stream ends before (`heads_bounded`).

The lines are read one by one, each against what is left of the budget.
`Reading` is that loop, round by round, with the budget counted from what has been
read: it never falls below zero, and a round makes it smaller, so no stream keeps
the loop going for more than 16384 rounds.
-/
import RtspServer.Proofs.BodyLength

namespace RtspServer

namespace Control

/-! ### The end of a head -/

/-- A place in a stream where a line ends that is nothing but its line end, the first such place. -/
structure IsHeadEnd (input : Bytes) (place : Nat) : Prop where
  le : place ≤ input.length
  ends : EndsEmpty (input.take place)
  first : ∀ other < place, ¬EndsEmpty (input.take other)

theorem IsHeadEnd.headOctets {input : Bytes} {place : Nat} (h : IsHeadEnd input place) :
    HeadOctets (input.take place) := by
  refine ⟨h.ends, fun p hp hends => ?_⟩
  -- what stands in front of a shorter piece of the stream is that piece of it
  obtain ⟨hle, hshort⟩ : p.length ≤ place ∧ p = input.take p.length := by
    have hlength := hp.length_le
    rw [List.length_take] at hlength
    exact ⟨Nat.le_trans hlength (Nat.min_le_left _ _),
      List.prefix_iff_eq_take.mp (hp.trans (List.take_prefix _ _))⟩
  rcases Nat.lt_or_eq_of_le hle with hlt | heq
  · exact absurd (hshort ▸ hends) (h.first _ hlt)
  · rw [hshort, heq]

theorem HeadOctets.isHeadEnd {octets : Bytes} (h : HeadOctets octets) (rest : Bytes) :
    IsHeadEnd (octets ++ rest) octets.length where
  le := by
    rw [List.length_append]
    exact Nat.le_add_right _ _
  ends := by
    rw [List.take_left]
    exact h.ends
  first other hother hends := by
    rw [List.take_append_of_le_length (Nat.le_of_lt hother)] at hends
    have hwhole := congrArg List.length (h.first _ (List.take_prefix _ _) hends)
    rw [List.length_take] at hwhole
    omega

/-! ### What is read -/

/-- A head that is read fits into the budget. -/
theorem length_le_of_head {before octets rest : Bytes} {budget : Nat} {input : Bytes}
    (h : readHeadFrom before budget input = .head octets rest) :
    octets.length ≤ before.length + budget := by
  fun_induction readHeadFrom before budget input with
  | case1 => cases h
  | case2 => cases h
  | case3 before budget input b line rest' hline hempty =>
    obtain ⟨rfl, -⟩ := HeadResult.head.inj h
    have hfits := length_takeLine_le budget input
    rw [hline] at hfits
    rw [List.length_append]
    exact Nat.add_le_add_left hfits _
  | case4 before budget input b line rest' hline hempty ih =>
    have hfits := length_takeLine_le budget input
    have hle := ih h
    rw [hline, List.length_cons] at hfits
    rw [List.length_append, List.length_cons] at hle
    omega

/-- A head that is too large has used up the budget, and nothing more has been read. -/
theorem of_tooLarge {before rest : Bytes} {budget : Nat} {input : Bytes}
    (h : readHeadFrom before budget input = .tooLarge rest) :
    budget ≤ input.length ∧ rest = input.drop budget := by
  fun_induction readHeadFrom before budget input with
  | case1 before input rest' hline =>
    obtain rfl := HeadResult.tooLarge.inj h
    obtain ⟨rfl, -⟩ := takeLine_cases hline
    exact ⟨Nat.zero_le _, rfl⟩
  | case2 => cases h
  | case3 => cases h
  | case4 before budget input b line rest' hline hempty ih =>
    obtain ⟨hle, rfl⟩ := ih h
    have hfits := length_takeLine_le budget input
    rw [hline, List.length_cons] at hfits
    obtain ⟨rfl, -⟩ := takeLine_cases hline
    have hread : (b :: line).drop budget = [] := List.drop_eq_nil_of_le hfits
    refine ⟨?_, ?_⟩
    · rw [List.length_append, List.length_cons]
      omega
    · rw [List.drop_append, hread, List.nil_append, List.length_cons]

/-- A stream that ends before a head has less than the budget allows. -/
theorem of_ended {before : Bytes} {budget : Nat} {input : Bytes}
    (h : readHeadFrom before budget input = .ended) : input.length < budget := by
  fun_induction readHeadFrom before budget input with
  | case1 => cases h
  | case2 before budget input rest hline hbudget =>
    obtain ⟨rfl, ⟨l, hl, -⟩ | ⟨-, hzero | rfl⟩⟩ := takeLine_cases hline
    · simp at hl
    · exact absurd hzero hbudget
    · exact Nat.pos_of_ne_zero hbudget
  | case3 => cases h
  | case4 before budget input b line rest' hline hempty ih =>
    have hlt := ih h
    obtain ⟨rfl, -⟩ := takeLine_cases hline
    rw [List.length_append, List.length_cons]
    omega

/-- **A head that ends within the limit is read**, and nothing behind it. -/
theorem IsHeadEnd.readHead {input : Bytes} {place : Nat} (h : IsHeadEnd input place)
    (hplace : place ≤ maxHead) :
    readHead input = .head (input.take place) (input.drop place) := by
  have hsize : (input.take place).length ≤ maxHead :=
    Nat.le_trans (List.length_take_le _ _) hplace
  have hread := h.headOctets.readHead_append hsize (input.drop place)
  rwa [List.take_append_drop] at hread

/-- **A head that does not end within the limit** is given up at the limit, or where the stream
ends. -/
theorem readHead_of_no_end {input : Bytes}
    (h : ¬∃ place, IsHeadEnd input place ∧ place ≤ maxHead) :
    readHead input =
      if maxHead ≤ input.length then .tooLarge (input.drop maxHead) else .ended := by
  rcases hread : readHead input with ⟨octets, rest⟩ | rest | -
  · -- a head that is read ends within the limit
    obtain ⟨rfl, hends, hfirst⟩ := of_readHead hread
    have hsize : octets.length ≤ maxHead := by simpa using length_le_of_head hread
    exact absurd ⟨_, HeadOctets.isHeadEnd ⟨hends, hfirst⟩ rest, hsize⟩ h
  · obtain ⟨hle, rfl⟩ := of_tooLarge hread
    rw [if_pos hle]
  · rw [if_neg (Nat.not_le.mpr (of_ended hread))]

/-! ### The loop -/

/-- Lines that have been read for a head, one in a round, none of them empty.  What is left of the
budget is counted from what has been read before. -/
inductive Reading (input : Bytes) : Nat → Bytes → Bytes → Prop where
  | start : Reading input 0 [] input
  | round {rounds : Nat} {before rest line behind : Bytes} (h : Reading input rounds before rest)
      (hline : takeLine (maxHead - before.length) rest = (line, behind)) (hne : line ≠ [])
      (hempty : isEmptyLine line = false) : Reading input (rounds + 1) (before ++ line) behind

namespace Reading

variable {input before rest : Bytes} {rounds : Nat}

/-- Every round reads at least one octet. -/
theorem rounds_le (h : Reading input rounds before rest) : rounds ≤ before.length := by
  induction h with
  | start => exact Nat.le_refl 0
  | round _ _ hne _ ih =>
    rw [List.length_append]
    exact Nat.add_le_add ih (List.length_pos_iff.mpr hne)

/-- What has been read never exceeds the limit. -/
theorem length_le (h : Reading input rounds before rest) : before.length ≤ maxHead := by
  induction h with
  | start => exact Nat.zero_le _
  | @round rounds before rest line behind _ hline _ _ ih =>
    have hfits := length_takeLine_le (maxHead - before.length) rest
    rw [hline] at hfits
    replace hfits : line.length ≤ maxHead - before.length := hfits
    rw [List.length_append]
    omega

theorem append_eq (h : Reading input rounds before rest) : before ++ rest = input := by
  induction h with
  | start => rfl
  | round _ hline _ _ ih =>
    rw [List.append_assoc, ← (takeLine_cases hline).1, ih]

/-- After any rounds the reader goes on with what it has read, and what is left of the budget. -/
theorem readHead_eq (h : Reading input rounds before rest) :
    readHead input = readHeadFrom before (maxHead - before.length) rest := by
  induction h with
  | start => rfl
  | round _ hline hne hempty ih =>
    rw [ih, readHeadFrom_of_takeLine hline hne, hempty, if_neg Bool.false_ne_true,
      List.length_append, Nat.sub_sub]

/-- The reader is done with its lines: there is no other, or it is empty. -/
def Done (before rest : Bytes) : Prop :=
  (takeLine (maxHead - before.length) rest).1 = [] ∨
    isEmptyLine (takeLine (maxHead - before.length) rest).1 = true

/-- The loop comes to its end from wherever it is. -/
theorem exists_done (h : Reading input rounds before rest) :
    ∃ rounds before rest, Reading input rounds before rest ∧ Done before rest := by
  induction hleft : maxHead - before.length using Nat.strong_induction_on
    generalizing rounds before rest with
  | h left ih =>
    by_cases hdone : Done before rest
    · exact ⟨_, _, _, h, hdone⟩
    · obtain ⟨hne, hempty⟩ := not_or.mp hdone
      have hround := h.round rfl hne (Bool.eq_false_iff.mpr hempty)
      have hlonger := List.length_pos_iff.mpr hne
      have hle := hround.length_le
      rw [List.length_append] at hle
      refine ih _ ?_ hround rfl
      rw [List.length_append]
      omega

end Reading

/-! ### Messages -/

/-- A head of blanks is no message, and any other head is the head of one. -/
theorem IsHeadEnd.readMessage_none {input rest : Bytes} {place : Nat} (h : IsHeadEnd input place)
    (hplace : place ≤ maxHead) :
    readMessage input = .ok (none, rest) ↔
      Text.isBlankLine (Utf8.decodeLenient (input.take place)) = true ∧
        rest = input.drop place := by
  simp only [readMessage, h.readHead hplace]
  split_ifs with hblank
  · simp [hblank, eq_comm]
  all_goals simp [hblank]

/-- **Heads are read up to their limit and no further.**  If a head ends within 16384 octets, it is
read up to its end: it is skipped if there are only blanks in it, and otherwise it is the head of
the message, whose body is what follows.  If none does, the stream is given up after 16384 octets,
or where it ends.  The lines are read in rounds that never overdraw the limit, and come to an end
after so many rounds at most. -/
theorem heads_bounded (input : Bytes) :
    (∀ place, IsHeadEnd input place → place ≤ 16384 →
      let head := Utf8.decodeLenient (input.take place)
      let behind := input.drop place
      readHead input = .head (input.take place) behind ∧
      (∀ rest, readMessage input = .ok (none, rest) ↔
        Text.isBlankLine head = true ∧ rest = behind) ∧
      (Text.isBlankLine head = false → readMessage input =
        if 65536 < contentLength head then .error .bodyTooLarge
        else if behind.length < contentLength head then .error .readError
        else .ok (some (head ++ Utf8.decodeLenient (behind.take (contentLength head))),
          behind.drop (contentLength head)))) ∧
    ((¬∃ place, IsHeadEnd input place ∧ place ≤ 16384) →
      (readMessage input = .error .headTooLarge ↔ 16384 ≤ input.length) ∧
      (16384 ≤ input.length → readHead input = .tooLarge (input.drop 16384)) ∧
      (readMessage input = .error .closedByClient ↔ input.length < 16384)) ∧
    (∀ rounds before rest, Reading input rounds before rest →
      rounds ≤ 16384 ∧ before.length ≤ 16384 ∧ before ++ rest = input ∧
        readHead input = readHeadFrom before (16384 - before.length) rest) ∧
    ∃ rounds before rest, Reading input rounds before rest ∧ Reading.Done before rest := by
  refine ⟨?_, ?_, ?_, Reading.start.exists_done⟩
  · intro place h hplace head behind
    refine ⟨h.readHead hplace, fun rest => h.readMessage_none hplace, fun hblank => ?_⟩
    have hsize : (input.take place).length ≤ maxHead :=
      Nat.le_trans (List.length_take_le _ _) hplace
    have hread := h.headOctets.readMessage_append hsize hblank behind
    rwa [List.take_append_drop] at hread
  · intro hnone
    have hread := readHead_of_no_end hnone
    rcases Nat.lt_or_ge input.length maxHead with hshort | hlong
    · rw [if_neg (Nat.not_le.mpr hshort)] at hread
      have hmessage : readMessage input = .error .closedByClient := by rw [readMessage, hread]
      have hnot : ¬16384 ≤ input.length := Nat.not_le.mpr hshort
      simp [hmessage, hnot, Nat.lt_of_not_le hnot]
    · rw [if_pos hlong] at hread
      have hmessage : readMessage input = .error .headTooLarge := by rw [readMessage, hread]
      have hle : 16384 ≤ input.length := hlong
      refine ⟨by simp [hmessage, hle], fun _ => hread, ?_⟩
      simp [hmessage, Nat.not_lt.mpr hle]
  · intro rounds before rest h
    exact ⟨Nat.le_trans h.rounds_le h.length_le, h.length_le, h.append_eq, h.readHead_eq⟩

/-- A head of one line with so many letters. -/
def letters (n : Nat) : Bytes := List.replicate n 97 ++ [13, lineFeed] ++ [13, lineFeed]

theorem length_letters (n : Nat) : (letters n).length = n + 4 := by simp [letters]

theorem lineFeed_notMem_replicate (n : Nat) : lineFeed ∉ List.replicate n 97 ++ [13] := by
  simp [List.mem_replicate, lineFeed]

theorem headOctets_letters {n : Nat} (hn : 0 < n) : HeadOctets (letters n) := by
  have hfree := lineFeed_notMem_replicate n
  have hfirst : isEmptyLine (List.replicate n 97 ++ [13] ++ [lineFeed]) = false :=
    isEmptyLine_of_length (by simp; omega)
  have hsplit : letters n =
      ([] ++ (List.replicate n 97 ++ [13] ++ [lineFeed])) ++ ([13] ++ [lineFeed]) := by
    simp [letters]
  rw [hsplit]
  refine ⟨⟨_, _, rfl, fun b hb => ?_, by decide⟩, fun p hp hends => ?_⟩
  · rw [← List.append_assoc, List.getLast?_concat] at hb
    exact (Option.some.inj hb).symm
  · -- it does not end in the first line, nor within the second
    refine (hends.prefix_cases (by decide) hp).resolve_left fun hp => ?_
    rcases hends.prefix_cases hfree hp with hp | rfl
    · exact not_endsEmpty_of_prefix_nil hp hends
    · rw [isEmptyLine_of_endsEmpty (fun _ hb => by cases hb) hfree hends] at hfirst
      cases hfirst

theorem drop_letters (n : Nat) : (letters n).drop (n + 3) = [lineFeed] := by
  have hsplit : letters n = (List.replicate n 97 ++ [13, lineFeed, 13]) ++ [lineFeed] := by
    simp [letters]
  rw [hsplit, List.drop_left' (by simp)]

/-- Its first line is read in the first round. -/
theorem reading_letters {n : Nat} (hn : 0 < n) (hfits : n + 1 < maxHead) :
    Reading (letters n) 1 ([] ++ (List.replicate n 97 ++ [13] ++ [lineFeed])) [13, lineFeed] := by
  have hline : takeLine maxHead (letters n) =
      (List.replicate n 97 ++ [13] ++ [lineFeed], [13, lineFeed]) := by
    have hsplit : letters n = (List.replicate n 97 ++ [13]) ++ lineFeed :: [13, lineFeed] := by
      simp [letters]
    rw [hsplit]
    exact takeLine_append (lineFeed_notMem_replicate n) (by simpa using hfits) _
  exact Reading.start.round hline (by simp) (isEmptyLine_of_length (by simp; omega))

/-- A head of 16384 octets is read, one more octet is too many, whatever follows. -/
theorem heads_bounded_letters :
    readHead (letters 16380 ++ [36]) = .head (letters 16380) [36] ∧
    readMessage (letters 16381) = .error .headTooLarge ∧
    readHead (letters 16381) = .tooLarge [lineFeed] ∧
    ∃ before, Reading (letters 16380) 1 before [13, lineFeed] ∧ before.length ≤ 16384 ∧
      readHead (letters 16380) = readHeadFrom before (16384 - before.length) [13, lineFeed] := by
  have hfits := (headOctets_letters (n := 16380) (by decide)).isHeadEnd [36]
  have hlarge := (headOctets_letters (n := 16381) (by decide)).isHeadEnd []
  rw [length_letters] at hfits hlarge
  rw [List.append_nil] at hlarge
  have hnone : ¬∃ place, IsHeadEnd (letters 16381) place ∧ place ≤ 16384 := fun ⟨place, h, hle⟩ =>
    hlarge.first place (Nat.lt_succ_of_le hle) h.ends
  have hlong : 16384 ≤ (letters 16381).length := by
    rw [length_letters]
    decide
  have hround := reading_letters (n := 16380) (by decide) (by decide)
  obtain ⟨hread, -, -⟩ := (heads_bounded (letters 16380 ++ [36])).1 _ hfits (by decide)
  obtain ⟨htoo, hgiven, -⟩ := (heads_bounded (letters 16381)).2.1 hnone
  obtain ⟨-, hle, -, hgoes⟩ := (heads_bounded (letters 16380)).2.2.1 _ _ _ hround
  refine ⟨?_, htoo.mpr hlong, (hgiven hlong).trans ?_, _, hround, hle, hgoes⟩
  · rw [hread, List.take_left' (length_letters _), List.drop_left' (length_letters _)]
  · rw [drop_letters 16381]

end Control

end RtspServer
