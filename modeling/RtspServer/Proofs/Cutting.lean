/-
RtspServer/Proofs/Cutting.lean

Text that is cut somewhere: at the first occurrence of a pattern
(`Text.of_cutAt`), at a character (`Text.cut_append_of_notMem`), into lines
(`Text.exists_last_piece`) and into words.

A pattern that occurs in a text at its end only is found there, whatever follows
the text (`Text.cutAt_append_of_eq`).  One that does not occur in it may still
begin at its end (`Text.of_cutAt_append`).  So a head whose lines end with CR LF
is told from its body (`Text.cutAt_emptyLine`).
-/
import RtspServer.Proofs.Rendering
import Mathlib.Data.List.TakeWhile

namespace RtspServer.Text

/-! ### The first occurrence of a text -/

theorem findFrom_succ (pattern t : Text) (start : Nat) :
    findFrom pattern (start + 1) t = (findFrom pattern start t).map (· + 1) := by
  induction t generalizing start with
  | nil =>
    unfold findFrom
    split <;> rfl
  | cons c t ih =>
    unfold findFrom
    split
    · rfl
    · exact ih (start + 1)

theorem cutAt_cons_of_pos {pattern t : Text} {c : Char} (h : pattern <+: c :: t) :
    cutAt pattern (c :: t) = some ([], (c :: t).drop pattern.length) := by
  rw [cutAt, findFrom, if_pos (List.isPrefixOf_iff_prefix.mpr h)]
  simp

theorem cutAt_cons_of_neg {pattern t : Text} {c : Char} (h : ¬pattern <+: c :: t) :
    cutAt pattern (c :: t) = (cutAt pattern t).map fun p => (c :: p.1, p.2) := by
  rw [cutAt, findFrom, if_neg (mt List.isPrefixOf_iff_prefix.mp h), findFrom_succ, cutAt]
  rcases findFrom pattern 0 t with - | n
  · rfl
  · simp [Nat.add_right_comm]

/-- **A text is cut where the pattern occurs first.** -/
theorem of_cutAt {pattern t before after : Text} (hne : pattern ≠ [])
    (h : cutAt pattern t = some (before, after)) :
    t = before ++ (pattern ++ after) ∧
      ∀ {before' after' : Text}, t = before' ++ (pattern ++ after') → before <+: before' := by
  induction t generalizing before with
  | nil =>
    have hnone : cutAt pattern [] = none := by simp [cutAt, findFrom, hne]
    rw [hnone] at h
    cases h
  | cons c t ih =>
    by_cases hhere : pattern <+: c :: t
    · rw [cutAt_cons_of_pos hhere] at h
      obtain ⟨rfl, rfl⟩ := Prod.mk.inj (Option.some.inj h)
      obtain ⟨after, hafter⟩ := hhere
      refine ⟨?_, fun _ => List.nil_prefix⟩
      rw [← hafter, List.drop_left, List.nil_append]
    · rw [cutAt_cons_of_neg hhere] at h
      obtain ⟨p, hp, hcons⟩ := Option.map_eq_some_iff.mp h
      obtain ⟨rfl, rfl⟩ := Prod.mk.inj hcons
      obtain ⟨ht, hfirst⟩ := ih hp
      refine ⟨congrArg (c :: ·) ht, fun {before' after'} heq => ?_⟩
      rcases before' with - | ⟨d, before'⟩
      · exact absurd ⟨after', heq.symm⟩ hhere
      · obtain ⟨rfl, hrest⟩ := List.cons.inj heq
        exact List.cons_prefix_cons.mpr ⟨rfl, hfirst hrest⟩

theorem cutAt_ne_none {pattern t : Text} (hne : pattern ≠ []) (h : pattern <:+: t) :
    cutAt pattern t ≠ none := by
  induction t with
  | nil => exact absurd (List.infix_nil.mp h) hne
  | cons c t ih =>
    by_cases hhere : pattern <+: c :: t
    · rw [cutAt_cons_of_pos hhere]
      nofun
    · have hlater : pattern <:+: t := (List.infix_cons_iff.mp h).resolve_left hhere
      rw [cutAt_cons_of_neg hhere]
      exact fun hnone => ih hlater (Option.map_eq_none_iff.mp hnone)

section

variable {pattern head body : Text}

/-- A pattern that occurs in a head at its end only is found there, whatever the body is. -/
theorem cutAt_append_of_eq {front : Text} (hne : pattern ≠ [])
    (hlast : ∀ {before after}, head = before ++ (pattern ++ after) → after = [])
    (hhead : head = front ++ pattern) : cutAt pattern (head ++ body) = some (front, body) := by
  have hinfix : pattern <:+: head ++ body := ⟨front, body, by rw [hhead]⟩
  rcases hcut : cutAt pattern (head ++ body) with - | ⟨before, after⟩
  · exact absurd hcut (cutAt_ne_none hne hinfix)
  obtain ⟨heq, hfirst⟩ := of_cutAt hne hcut
  -- what is found comes before the end of the head or is the end
  obtain ⟨x, rfl⟩ := hfirst (show head ++ body = front ++ (pattern ++ body) by
    rw [hhead, List.append_assoc])
  have hx : pattern <+: x ++ pattern := by
    have hshift : pattern ++ after = x ++ pattern ++ body := by
      rw [hhead] at heq
      simpa using heq.symm
    refine List.prefix_of_prefix_length_le ⟨after, hshift⟩ (List.prefix_append _ body) ?_
    rw [List.length_append]
    exact Nat.le_add_left _ _
  obtain ⟨y, hy⟩ := hx
  have hoccurs : head = before ++ (pattern ++ y) := by rw [hhead, List.append_assoc, hy]
  obtain rfl := hlast hoccurs
  have hlength := congrArg List.length hy
  rw [List.append_nil, List.length_append] at hlength
  have hxnil : x = [] := List.length_eq_zero_iff.mp (by omega)
  rw [hhead, hxnil] at heq
  simp only [List.append_nil, List.append_assoc, List.append_cancel_left_eq] at heq
  rw [hxnil, List.append_nil, heq]

/-- A pattern that does not occur in a head is found behind it, or it begins at the end of the head
and ends in the body. -/
theorem of_cutAt_append (hne : pattern ≠ [])
    (hlast : ∀ {before after}, head = before ++ (pattern ++ after) → after = [])
    (hnot : ¬pattern <:+ head) {before after : Text}
    (h : cutAt pattern (head ++ body) = some (before, after)) :
    (∃ u, before = head ++ u ∧ body = u ++ (pattern ++ after)) ∨
      ∃ p q, pattern = p ++ q ∧ p ≠ [] ∧ q ≠ [] ∧ head = before ++ p ∧ body = q ++ after := by
  obtain ⟨heq, -⟩ := of_cutAt hne h
  rcases List.append_eq_append_iff.mp heq with ⟨u, hu, hbody⟩ | ⟨v, hv, hrest⟩
  · exact .inl ⟨u, hu, hbody⟩
  rcases List.append_eq_append_iff.mp hrest with ⟨w, rfl, -⟩ | ⟨w, rfl, hbody⟩
  · obtain rfl := hlast hv
    exact absurd ⟨before, by rw [hv, List.append_nil]⟩ hnot
  · rcases eq_or_ne v [] with rfl | hvne
    · exact .inl ⟨[], by rw [hv, List.append_nil, List.append_nil], hbody⟩
    · refine .inr ⟨v, w, rfl, hvne, ?_, hv, hbody⟩
      rintro rfl
      exact hnot ⟨before, by rw [hv, List.append_nil]⟩

end

/-! ### The end of a head -/

/-- Two line ends in a row. -/
def emptyLine : Text := ['\r', '\n', '\r', '\n']

/-- A text with a first separator is cut at that one or at a later one. -/
theorem append_cons_cases {c : Char} {s s' t t' : Text} (hs : c ∉ s)
    (h : s ++ c :: t = s' ++ c :: t') :
    (s = s' ∧ t = t') ∨ ∃ u, s' = s ++ c :: u ∧ t = u ++ c :: t' := by
  rcases List.append_eq_append_iff.mp h with ⟨u, rfl, hu⟩ | ⟨u, rfl, hu⟩ <;>
    rcases u with - | ⟨d, u⟩
  · exact .inl ⟨(List.append_nil s).symm, (List.cons.inj hu).2⟩
  · obtain ⟨rfl, rfl⟩ := List.cons.inj hu
    exact .inr ⟨u, rfl, rfl⟩
  · exact .inl ⟨List.append_nil s', (List.cons.inj hu).2.symm⟩
  · obtain ⟨rfl, -⟩ := List.cons.inj hu
    exact absurd (List.mem_append_right s' List.mem_cons_self) hs

theorem notMem_append_return {l : Text} (hl : '\n' ∉ l) : '\n' ∉ l ++ ['\r'] := fun h =>
  (List.mem_append.mp h).elim hl (by decide)

/-- Lines with the empty line behind them, cut at the first line feed. -/
theorem unlines_cons_append (l : Text) (ls : List Text) :
    unlines (l :: ls) ++ Headers.lineEnd =
      (l ++ ['\r']) ++ '\n' :: (unlines ls ++ Headers.lineEnd) := by
  simp [unlines_cons]

/-- Lines that are not empty do not begin with an empty one. -/
theorem eq_nil_of_lineEnd {ls : List Text} (hls : ∀ l ∈ ls, '\n' ∉ l ∧ l ≠ []) {after : Text}
    (h : unlines ls ++ Headers.lineEnd = ['\r'] ++ '\n' :: after) : after = [] := by
  rcases ls with - | ⟨l, ls⟩
  · exact (List.cons.inj (List.cons.inj h).2).2.symm
  · obtain ⟨hl, hne⟩ := hls l List.mem_cons_self
    rw [unlines_cons_append] at h
    have hlength : (l ++ ['\r']).length ≤ 1 := by
      rcases append_cons_cases (notMem_append_return hl) h with ⟨hsame, -⟩ | ⟨u, hlater, -⟩
      · rw [hsame]
        exact Nat.le_refl 1
      · have := congrArg List.length hlater
        simp only [List.length_append, List.length_cons, List.length_nil] at this ⊢
        omega
    rw [List.length_append, List.length_singleton] at hlength
    exact absurd (List.length_eq_zero_iff.mp (by omega)) hne

/-- Lines that are not empty and the empty line behind them hold no other empty line. -/
theorem emptyLine_last {ls : List Text} (hls : ∀ l ∈ ls, '\n' ∉ l ∧ l ≠ [])
    {before after : Text}
    (h : unlines ls ++ Headers.lineEnd =
      (before ++ ['\r']) ++ '\n' :: (['\r'] ++ '\n' :: after)) : after = [] := by
  induction ls generalizing before with
  | nil =>
    have hlength := congrArg List.length h
    simp [unlines, Headers.lineEnd] at hlength
    omega
  | cons l ls ih =>
    obtain ⟨hl, -⟩ := hls l List.mem_cons_self
    have hrest : ∀ m ∈ ls, '\n' ∉ m ∧ m ≠ [] := fun m hm => hls m (List.mem_cons_of_mem _ hm)
    rw [unlines_cons_append] at h
    rcases append_cons_cases (notMem_append_return hl) h with ⟨-, hnext⟩ | ⟨u, hu, hnext⟩
    · exact eq_nil_of_lineEnd hrest hnext
    · -- the carriage return in front of the empty line belongs to a later line
      rcases u.eq_nil_or_concat' with rfl | ⟨v, c, rfl⟩
      · exact absurd (List.append_inj_right' hu rfl) (by decide)
      · obtain rfl : c = '\r' := by
          have := congrArg List.getLast? hu
          simpa [List.getLast?_append, List.getLast?_cons] using this.symm
        exact ih hrest hnext

/-- **A head ends at its empty line.**  Lines that are not empty are told from what comes after
the first empty one. -/
theorem cutAt_emptyLine {ls : List Text} {last : Text}
    (hls : ∀ l ∈ ls ++ [last], '\n' ∉ l ∧ l ≠ []) (u : Text) :
    cutAt emptyLine (unlines (ls ++ [last]) ++ (Headers.lineEnd ++ u)) =
      some (unlines ls ++ last, u) := by
  have hlast : ∀ {before after : Text}, unlines (ls ++ [last]) ++ Headers.lineEnd =
      before ++ (emptyLine ++ after) → after = [] := fun h =>
    emptyLine_last hls (by simpa [emptyLine] using h)
  have hhead : unlines (ls ++ [last]) ++ Headers.lineEnd = (unlines ls ++ last) ++ emptyLine := by
    simp [unlines, Headers.lineEnd, emptyLine]
  rw [← List.append_assoc]
  exact cutAt_append_of_eq (by decide) hlast hhead

/-! ### The last line -/

/-- The last piece between line feeds stands behind all of them. -/
theorem exists_last_piece (t : Text) : ∃ whole init last : _, t = whole ++ last ∧
    (whole = [] ∨ ∃ s, whole = s ++ ['\n']) ∧
      ∀ u : Text, '\n' ∉ u → splitOn '\n' (t ++ u) = init ++ [last ++ u] := by
  have hpiece : ∀ {l u : Text}, '\n' ∉ l → '\n' ∉ u → splitOn '\n' (l ++ u) = [l ++ u] := by
    intro l u hl hu
    refine splitBy_of_forall fun c hc => beq_eq_false_iff_ne.mpr ?_
    rintro rfl
    exact (List.mem_append.mp hc).elim hl hu
  by_cases hfeed : '\n' ∈ t
  · obtain ⟨back, front, hback, hlast⟩ := List.eq_append_cons_of_mem (List.mem_reverse.mpr hfeed)
    have ht : t = front.reverse ++ ['\n'] ++ back.reverse := by
      simpa using congrArg List.reverse hback
    refine ⟨_, splitOn '\n' front.reverse, back.reverse, ht, .inr ⟨_, rfl⟩, fun u hu => ?_⟩
    rw [← hpiece (mt List.mem_reverse.mp hlast) hu, ht, List.append_assoc, List.append_assoc]
    exact splitBy_append (by decide) _ _
  · exact ⟨[], [], t, rfl, .inl rfl, fun u hu => hpiece hfeed hu⟩

/-! ### A carriage return at the end -/

theorem cut_of_notMem {c : Char} {t : Text} (ht : c ∉ t) : cut c t = none := by
  have hdrop : t.dropWhile (· != c) = [] :=
    List.dropWhile_eq_nil_iff.mpr fun d hd => bne_iff_ne.mpr fun he => ht (he ▸ hd)
  rw [cut, hdrop]

/-- A text is cut at the first occurrence. -/
theorem cut_eq_some_iff {c : Char} {t : Text} {p : Text × Text} :
    cut c t = some p ↔ t = p.1 ++ c :: p.2 ∧ c ∉ p.1 := by
  constructor
  · intro h
    have hmem : c ∈ t := by
      by_contra hno
      exact absurd ((cut_of_notMem hno).symm.trans h) nofun
    obtain ⟨name, value, rfl, hname⟩ := List.eq_append_cons_of_mem hmem
    obtain rfl := Option.some.inj ((cut_append hname value).symm.trans h)
    exact ⟨rfl, hname⟩
  · rintro ⟨rfl, hname⟩
    exact cut_append hname _

/-- What follows a text that is cut belongs to its second part. -/
theorem cut_append_of_notMem {c : Char} {u : Text} (hu : c ∉ u) (t : Text) :
    cut c (t ++ u) = (cut c t).map fun p => (p.1, p.2 ++ u) := by
  by_cases hc : c ∈ t
  · obtain ⟨name, value, rfl, hname⟩ := List.eq_append_cons_of_mem hc
    rw [List.append_assoc, List.cons_append, cut_append hname, cut_append hname]
    rfl
  · have hboth : c ∉ t ++ u := fun h => (List.mem_append.mp h).elim hc hu
    rw [cut_of_notMem hc, cut_of_notMem hboth]
    rfl

/-- A blank at the end is trimmed. -/
theorem trim_append {c : Char} (hc : isBlank c = true) (t : Text) : trim (t ++ [c]) = trim t := by
  have hend : ∀ s : Text, trimEnd (s ++ [c]) = trimEnd s := by
    intro s
    rw [trimEnd, List.reverse_append, List.reverse_singleton, List.singleton_append,
      List.dropWhile_cons_of_pos hc]
    rfl
  unfold trim trimStart
  rw [List.dropWhile_append]
  split
  · next hnil =>
    rw [List.isEmpty_iff.mp hnil, List.dropWhile_cons_of_pos hc]
    rfl
  · exact hend _

/-- A blank at the end belongs to no word. -/
theorem words_append {c : Char} (hc : isBlank c = true) (t : Text) :
    words (t ++ [c]) = words t := by
  rw [words, splitBy_append hc, splitBy_nil, List.filter_append]
  exact List.append_nil _

theorem dropReturn_cases (l : Text) :
    dropReturn l = l ∨ l = dropReturn l ++ ['\r'] := by
  unfold dropReturn
  split
  · next h =>
    obtain ⟨m, rfl⟩ := List.getLast?_eq_some_iff.mp h
    exact .inr (by rw [List.dropLast_concat])
  · exact .inl rfl

end RtspServer.Text
