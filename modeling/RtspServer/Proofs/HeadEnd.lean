/-
RtspServer/Proofs/HeadEnd.lean

Where a head ends.  It is read line by line, so it ends with the first line that
is empty, whether that line has a carriage return or not (`Control.of_readHead`).

A line feed among the octets is one in their text, and the other way round, even
if the octets are no UTF-8.  So the text of a head has the same shape: some
lines, an empty one, and no empty line before that (`IsHead`).
-/
import RtspServer.Proofs.Item

namespace RtspServer

namespace Control

/-! ### Where a head ends -/

/-- Whole lines: nothing stands behind the last line feed. -/
def IsWhole (octets : Bytes) : Prop := ∀ b ∈ octets.getLast?, b = lineFeed

/-- Octets whose last line is empty. -/
def EndsEmpty (octets : Bytes) : Prop :=
  ∃ before line, octets = before ++ line ∧ IsWhole before ∧ isEmptyLine line = true

/-- A line is taken off the front; it has a line feed at its end or none at all, and it has one
unless the budget is used up or the stream has ended. -/
theorem takeLine_cases {budget : Nat} {input line rest : Bytes}
    (h : takeLine budget input = (line, rest)) :
    input = line ++ rest ∧
      ((∃ l, line = l ++ [lineFeed] ∧ lineFeed ∉ l) ∨
        lineFeed ∉ line ∧ (budget = line.length ∨ rest = [])) := by
  fun_induction takeLine budget input generalizing line with
  | case1 input =>
    obtain ⟨rfl, rfl⟩ := Prod.mk.inj h
    exact ⟨rfl, .inr ⟨List.not_mem_nil, .inl rfl⟩⟩
  | case2 =>
    obtain ⟨rfl, rfl⟩ := Prod.mk.inj h
    exact ⟨rfl, .inr ⟨List.not_mem_nil, .inr rfl⟩⟩
  | case3 budget after =>
    obtain ⟨rfl, rfl⟩ := Prod.mk.inj h
    exact ⟨rfl, .inl ⟨[], rfl, List.not_mem_nil⟩⟩
  | case4 budget b after hb ih =>
    obtain ⟨rfl, rfl⟩ := Prod.mk.inj h
    obtain ⟨hafter, hend⟩ := ih rfl
    refine ⟨congrArg (b :: ·) hafter, ?_⟩
    have hcons : ∀ {l : Bytes}, lineFeed ∉ l → lineFeed ∉ b :: l := fun hfree hmem =>
      (List.mem_cons.mp hmem).elim (fun he => hb he.symm) hfree
    rcases hend with ⟨l, hl, hfree⟩ | ⟨hfree, hbudget | hrest⟩
    · exact .inl ⟨b :: l, by rw [hl]; rfl, hcons hfree⟩
    · exact .inr ⟨hcons hfree, .inl (congrArg (· + 1) hbudget)⟩
    · exact .inr ⟨hcons hfree, .inr hrest⟩

theorem readHeadFrom_zero (before input : Bytes) :
    readHeadFrom before 0 input = .tooLarge input := by
  rw [readHeadFrom]
  rfl

theorem readHeadFrom_nil (before octets rest : Bytes) (budget : Nat) :
    readHeadFrom before budget [] ≠ .head octets rest := by
  intro h
  rw [readHeadFrom] at h
  cases budget <;> cases h

theorem IsWhole.eq_nil {before l : Bytes} (h : IsWhole (before ++ l)) (hl : lineFeed ∉ l) :
    l = [] := by
  rcases l.eq_nil_or_concat' with rfl | ⟨m, b, rfl⟩
  · rfl
  · rw [← List.append_assoc] at h
    exact absurd (List.mem_append_right m List.mem_cons_self) (h b List.getLast?_concat ▸ hl)

/-- There is one way to tell whole lines from what stands behind them. -/
theorem IsWhole.append_inj {before before' l l' : Bytes} (hwhole : IsWhole before)
    (hwhole' : IsWhole before') (hl : lineFeed ∉ l) (hl' : lineFeed ∉ l')
    (h : before ++ l = before' ++ l') : l = l' := by
  rcases List.append_eq_append_iff.mp h with ⟨m, rfl, rfl⟩ | ⟨m, rfl, rfl⟩
  · rw [hwhole'.eq_nil fun hm => hl (List.mem_append_left _ hm), List.nil_append]
  · rw [hwhole.eq_nil fun hm => hl' (List.mem_append_left _ hm), List.nil_append]

theorem exists_of_isEmptyLine {line : Bytes} (h : isEmptyLine line = true) :
    ∃ l, line = l ++ [lineFeed] ∧ lineFeed ∉ l := by
  rcases Bool.or_eq_true_iff.mp h with h | h
  · exact ⟨[13], beq_iff_eq.mp h, by decide⟩
  · exact ⟨[], beq_iff_eq.mp h, by decide⟩

theorem EndsEmpty.isWhole {octets : Bytes} (h : EndsEmpty octets) : IsWhole octets := by
  obtain ⟨before, line, rfl, -, hline⟩ := h
  obtain ⟨l, rfl, -⟩ := exists_of_isEmptyLine hline
  intro b hb
  rw [← List.append_assoc, List.getLast?_concat] at hb
  exact (Option.some.inj hb).symm

/-- Only an empty line ends octets in an empty line. -/
theorem isEmptyLine_of_endsEmpty {before l : Bytes} (hbefore : IsWhole before)
    (hl : lineFeed ∉ l) (h : EndsEmpty (before ++ (l ++ [lineFeed]))) :
    isEmptyLine (l ++ [lineFeed]) = true := by
  obtain ⟨before', line, heq, hbefore', hline⟩ := h
  obtain ⟨l', rfl, hl'⟩ := exists_of_isEmptyLine hline
  rw [← List.append_assoc, ← List.append_assoc] at heq
  rwa [hbefore.append_inj hbefore' hl hl' (List.append_cancel_right heq)]

/-- Octets do not end in an empty line inside of a line. -/
theorem EndsEmpty.prefix_cases {before l octets : Bytes} (hl : lineFeed ∉ l)
    (hstart : octets <+: before ++ (l ++ [lineFeed])) (h : EndsEmpty octets) :
    octets <+: before ∨ octets = before ++ (l ++ [lineFeed]) := by
  obtain ⟨left, hleft⟩ := hstart
  rcases left.eq_nil_or_concat' with rfl | ⟨left, b, rfl⟩
  · exact .inr ((List.append_nil _).symm.trans hleft)
  · rw [← List.append_assoc, ← List.append_assoc] at hleft
    rcases List.append_eq_append_iff.mp (List.append_inj_left' hleft rfl) with
      ⟨m, rfl, -⟩ | ⟨m, rfl, rfl⟩
    · exact .inl (List.prefix_append _ _)
    · rw [h.isWhole.eq_nil fun hm => hl (List.mem_append_left _ hm), List.append_nil]
      exact .inl (List.prefix_refl _)

/-- **A head is as short as can be**: it ends in an empty line, and nothing in front of it does. -/
theorem of_readHeadFrom {before : Bytes} {budget : Nat} {input octets rest : Bytes}
    (hbefore : IsWhole before) (hnone : ∀ p, p <+: before → ¬EndsEmpty p)
    (h : readHeadFrom before budget input = .head octets rest) :
    before ++ input = octets ++ rest ∧ EndsEmpty octets ∧
      ∀ p, p <+: octets → EndsEmpty p → p = octets := by
  fun_induction readHeadFrom before budget input with
  | case1 => cases h
  | case2 => cases h
  | case3 before budget input b line rest' hline hempty =>
    obtain ⟨rfl, rfl⟩ := HeadResult.head.inj h
    obtain ⟨rfl, -⟩ := takeLine_cases hline
    refine ⟨(List.append_assoc _ _ _).symm, ⟨before, _, rfl, hbefore, hempty⟩, ?_⟩
    intro p hp hends
    obtain ⟨l, hl, hfree⟩ := exists_of_isEmptyLine hempty
    rw [hl] at hp ⊢
    exact (hends.prefix_cases hfree hp).resolve_left fun hp => hnone p hp hends
  | case4 before budget input b line rest' hline hempty ih =>
    obtain ⟨rfl, hend⟩ := takeLine_cases hline
    rcases hend with ⟨l, hl, hfree⟩ | ⟨-, hbudget | hrest⟩
    · rw [hl] at ih hempty h ⊢
      rw [← List.append_assoc before]
      refine ih ?_ ?_ h
      · intro c hc
        rw [← List.append_assoc, List.getLast?_concat] at hc
        exact (Option.some.inj hc).symm
      · intro p hp hends
        rcases hends.prefix_cases hfree hp with hp | rfl
        · exact hnone p hp hends
        · exact hempty (isEmptyLine_of_endsEmpty hbefore hfree hends)
    · -- the budget is used up within the line
      rw [hbudget, List.length_cons, Nat.sub_self, readHeadFrom_zero] at h
      cases h
    · rw [hrest] at h
      exact absurd h (readHeadFrom_nil _ _ _ _)

/-- Octets do not end in an empty line behind the last line feed. -/
theorem EndsEmpty.prefix_of_notMem {before l octets : Bytes} (hl : lineFeed ∉ l)
    (hstart : octets <+: before ++ l) (h : EndsEmpty octets) : octets <+: before := by
  have hline : octets <+: before ++ (l ++ [lineFeed]) := by
    rw [← List.append_assoc]
    exact hstart.trans (List.prefix_append _ _)
  refine (h.prefix_cases hl hline).resolve_right fun heq => ?_
  have hle := hstart.length_le
  simp only [heq, List.length_append, List.length_singleton] at hle
  omega

/-- **A head is found if there is one**: without one, nothing within the budget ends in an empty
line. -/
theorem not_endsEmpty_of_readHeadFrom {before : Bytes} {budget : Nat} {input : Bytes}
    (hbefore : IsWhole before) (hnone : ∀ p, p <+: before → ¬EndsEmpty p)
    (h : ∀ octets rest, readHeadFrom before budget input ≠ .head octets rest) {p : Bytes}
    (hp : p <+: before ++ input) (hsize : p.length ≤ before.length + budget) : ¬EndsEmpty p := by
  fun_induction readHeadFrom before budget input with
  | case1 before input rest hline =>
    exact hnone p (List.prefix_of_prefix_length_le hp (List.prefix_append _ _) hsize)
  | case2 before budget input rest hline hbudget =>
    obtain ⟨rfl, ⟨l, hl, -⟩ | ⟨-, hzero | rfl⟩⟩ := takeLine_cases hline
    · simp at hl
    · exact absurd hzero hbudget
    · exact hnone p (by simpa using hp)
  | case3 before budget input b line rest hline hempty => exact absurd rfl (h _ _)
  | case4 before budget input b line rest hline hempty ih =>
    obtain ⟨rfl, hend⟩ := takeLine_cases hline
    have hfits := length_takeLine_le budget ((b :: line) ++ rest)
    rw [hline, List.length_cons] at hfits
    rw [← List.append_assoc] at hp
    rcases hend with ⟨l, hl, hfree⟩ | ⟨hfree, hend⟩
    · refine ih ?_ ?_ h hp ?_
      · intro c hc
        rw [hl, ← List.append_assoc, List.getLast?_concat] at hc
        exact (Option.some.inj hc).symm
      · intro q hq hends
        rw [hl] at hq
        rcases hends.prefix_cases hfree hq with hq | rfl
        · exact hnone q hq hends
        · rw [hl] at hempty
          exact hempty (isEmptyLine_of_endsEmpty hbefore hfree hends)
      · simp only [List.length_append, List.length_cons]
        omega
    · -- the line is cut short by the budget or by the end of the stream
      intro hends
      have hstart : p <+: before ++ b :: line := by
        rcases hend with hbudget | rfl
        · refine List.prefix_of_prefix_length_le hp (List.prefix_append _ _) ?_
          rwa [List.length_append, ← hbudget]
        · rwa [List.append_nil] at hp
      exact hnone p (hends.prefix_of_notMem hfree hstart) hends

/-- The octets of a head: the last line is empty, and no line before it is. -/
structure HeadOctets (octets : Bytes) : Prop where
  ends : EndsEmpty octets
  first : ∀ p, p <+: octets → EndsEmpty p → p = octets

/-- Nothing that is read before the first line ends in an empty line. -/
theorem not_endsEmpty_of_prefix_nil {p : Bytes} (hp : p <+: []) : ¬EndsEmpty p := by
  rintro ⟨before, line, rfl, -, hline⟩
  obtain ⟨l, rfl, -⟩ := exists_of_isEmptyLine hline
  exact absurd (List.prefix_nil.mp hp) (by simp)

/-- **What is read as a head**: the octets up to the first empty line. -/
theorem of_readHead {input octets rest : Bytes} (h : readHead input = .head octets rest) :
    input = octets ++ rest ∧ EndsEmpty octets ∧
      ∀ p, p <+: octets → EndsEmpty p → p = octets := by
  exact of_readHeadFrom (fun _ hb => by cases hb) (fun _ => not_endsEmpty_of_prefix_nil) h

theorem headOctets_of_readHead {input octets rest : Bytes}
    (h : readHead input = .head octets rest) : HeadOctets octets :=
  ⟨(of_readHead h).2.1, (of_readHead h).2.2⟩

/-- **A head that is small enough is read**, whatever follows it. -/
theorem HeadOctets.readHead_append {octets : Bytes} (h : HeadOctets octets)
    (hsize : octets.length ≤ maxHead) (rest : Bytes) :
    readHead (octets ++ rest) = .head octets rest := by
  have hwhole : IsWhole [] := fun _ hb => by cases hb
  by_cases hread : ∃ head behind, readHead (octets ++ rest) = .head head behind
  · obtain ⟨head, behind, hread⟩ := hread
    obtain ⟨hinput, hends, hfirst⟩ := of_readHead hread
    -- of two heads at the front of one stream, each is as short as the other
    have heq : octets = head := by
      have hfront : head <+: octets ++ rest := hinput ▸ List.prefix_append _ _
      rcases List.prefix_or_prefix_of_prefix (List.prefix_append octets rest) hfront with hle | hle
      · exact hfirst _ hle h.ends
      · exact (h.first _ hle hends).symm
    subst heq
    rw [hread, List.append_cancel_left hinput]
  · have hnone : ∀ head behind, readHeadFrom [] maxHead (octets ++ rest) ≠ .head head behind :=
      fun head behind hhead => hread ⟨head, behind, hhead⟩
    have hwithin : octets.length ≤ ([] : Bytes).length + maxHead := by simpa using hsize
    exact absurd h.ends (not_endsEmpty_of_readHeadFrom hwhole
      (fun _ => not_endsEmpty_of_prefix_nil) hnone (List.prefix_append _ _) hwithin)

end Control

/-- An empty line, which may have a carriage return or not. -/
def Text.IsEmptyLine (t : Text) : Prop := t = ['\n'] ∨ t = ['\r', '\n']

/-- The text of a head: some lines, an empty one, and no empty line before that. -/
structure IsHead (head : Text) : Prop where
  ended : ∃ lines empty, Text.IsEmptyLine empty ∧ head = lines ++ '\n' :: empty
  first : ∀ {lines empty after}, Text.IsEmptyLine empty →
    head = lines ++ '\n' :: (empty ++ after) → after = []
  ne_blank : Text.isBlankLine head = false

namespace Control

theorem isEmptyLine_encode {empty : Text} (h : empty.IsEmptyLine) :
    isEmptyLine (Utf8.encode empty) = true := by
  rcases h with rfl | rfl <;> decide

theorem exists_encode_of_isEmptyLine {line : Bytes} (h : isEmptyLine line = true) :
    ∃ empty : Text, empty.IsEmptyLine ∧ line = Utf8.encode empty := by
  rcases Bool.or_eq_true_iff.mp h with h | h
  · exact ⟨['\r', '\n'], .inr rfl, beq_iff_eq.mp h⟩
  · exact ⟨['\n'], .inl rfl, beq_iff_eq.mp h⟩

/-- **A head that is read is the text of a head**, unless it is a blank line. -/
theorem isHead_of_readHead {input octets rest : Bytes} (h : readHead input = .head octets rest)
    (hblank : Text.isBlankLine (Utf8.decodeLenient octets) = false) :
    IsHead (Utf8.decodeLenient octets) := by
  obtain ⟨-, hends, hfirst⟩ := of_readHead h
  refine ⟨?_, ?_, hblank⟩
  · obtain ⟨before, line, rfl, hwhole, hline⟩ := hends
    obtain ⟨empty, hempty, rfl⟩ := exists_encode_of_isEmptyLine hline
    rcases before.eq_nil_or_concat' with rfl | ⟨before, b, rfl⟩
    · -- an empty line by itself is blank
      rw [List.nil_append, Utf8.decodeLenient_encode] at hblank
      rcases hempty with rfl | rfl <;> cases hblank
    · obtain rfl := hwhole b List.getLast?_concat
      refine ⟨Utf8.decodeLenient before, empty, hempty, ?_⟩
      rw [List.append_assoc, List.singleton_append, Utf8.decodeLenient_append_cons (by decide),
        Utf8.decodeLenient_encode]
      rfl
  · intro lines empty after hempty htext
    have hword : ∀ c ∈ '\n' :: empty, 0 < c.toNat ∧ c.toNat < 128 := by
      rcases hempty with rfl | rfl <;> simp
    obtain ⟨before, behind, heq, -, hafter⟩ :=
      Utf8.exists_of_decodeLenient_word (List.cons_ne_nil _ _) hword htext
    -- the octets up to that empty line are a head already
    have hline : EndsEmpty (before ++ Utf8.encode ('\n' :: empty)) := by
      refine ⟨before ++ [lineFeed], Utf8.encode empty, ?_, ?_, isEmptyLine_encode hempty⟩
      · rw [Utf8.encode_cons, List.append_assoc]
        rfl
      · intro b hb
        rw [List.getLast?_concat] at hb
        exact (Option.some.inj hb).symm
    have hwhole := hfirst _ ⟨behind, by rw [heq, List.append_assoc]⟩ hline
    rw [← List.append_assoc, hwhole] at heq
    rw [← hafter, List.self_eq_append_right.mp heq, Utf8.decodeLenient_nil]

end Control

end RtspServer

