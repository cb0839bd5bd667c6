/-
RtspServer/Proofs/Rendering.lean

Text that is written in a certain way is read back as it was written: lines
that end with CR LF (`Text.lines_unlines`), the name and the value on a header
line (`Text.cut_append`), words with one blank between them
(`Text.words_append_cons`), and decimal numbers (`Text.numeral?_decimal`).
-/
import RtspServer.Message.Request
import Mathlib.Data.List.Basic
import Mathlib.Tactic.Common

namespace RtspServer.Text

/-! ### Pieces -/

theorem splitBy_of_forall {p : Char → Bool} {t : Text} (ht : ∀ c ∈ t, p c = false) :
    splitBy p t = [t] := by
  induction t with
  | nil => rfl
  | cons c t ih =>
    rw [splitBy_cons_of_neg (ht c List.mem_cons_self)
      (ih fun d hd => ht d (List.mem_cons_of_mem _ hd))]

theorem splitBy_append {p : Char → Bool} {c : Char} (hc : p c = true) (s t : Text) :
    splitBy p (s ++ c :: t) = splitBy p s ++ splitBy p t := by
  induction s with
  | nil => exact splitBy_cons_of_pos hc t
  | cons d s ih =>
    rcases hd : p d with _ | _
    · obtain ⟨piece, rest, hs⟩ := List.exists_cons_of_ne_nil (splitBy_ne_nil p s)
      rw [hs, List.cons_append] at ih
      rw [List.cons_append, splitBy_cons_of_neg hd ih, splitBy_cons_of_neg hd hs]
      rfl
    · rw [List.cons_append, splitBy_cons_of_pos hd, splitBy_cons_of_pos hd, ih]
      rfl

theorem splitBy_append_cons {p : Char → Bool} {s : Text} (hs : ∀ c ∈ s, p c = false) {c : Char}
    (hc : p c = true) (t : Text) : splitBy p (s ++ c :: t) = s :: splitBy p t := by
  rw [splitBy_append hc, splitBy_of_forall hs, List.singleton_append]

/-! ### Lines -/

/-- Lines with their line ends. -/
def unlines (ls : List Text) : Text := ls.flatMap (· ++ Headers.lineEnd)

theorem unlines_cons (l : Text) (ls : List Text) :
    unlines (l :: ls) = l ++ '\r' :: '\n' :: unlines ls := by
  simp [unlines, Headers.lineEnd]

theorem unlines_append (ls ls' : List Text) : unlines (ls ++ ls') = unlines ls ++ unlines ls' :=
  List.flatMap_append

theorem dropReturn_append (l : Text) : dropReturn (l ++ ['\r']) = l := by
  simp [dropReturn]

@[simp] theorem lines_nil : lines [] = [] := rfl

/-- The lines of a text that ends with a line feed, and of what follows it. -/
theorem lines_append (s t : Text) :
    lines (s ++ '\n' :: t) = (s.splitOn '\n').map dropReturn ++ lines t := by
  have hsplit : (s ++ '\n' :: t).splitOn '\n' = s.splitOn '\n' ++ t.splitOn '\n' :=
    splitBy_append rfl s t
  have hne : t.splitOn '\n' ≠ [] := splitBy_ne_nil _ t
  simp only [lines, hsplit]
  rw [List.dropLast_append_of_ne_nil hne, List.getLast?_append_of_ne_nil _ hne, List.map_append,
    List.append_assoc]

/-- A line that ends with CR LF is the first line. -/
theorem lines_append_lineEnd {l : Text} (hl : '\n' ∉ l) (t : Text) :
    lines (l ++ '\r' :: '\n' :: t) = l :: lines t := by
  have hfree : ∀ c ∈ l ++ ['\r'], (c == '\n') = false := by
    intro c hc
    rcases List.mem_append.mp hc with hc | hc
    · exact beq_eq_false_iff_ne.mpr fun he => hl (he ▸ hc)
    · rw [List.mem_singleton.mp hc]
      rfl
  have hsplit : splitOn '\n' (l ++ ['\r']) = [l ++ ['\r']] := splitBy_of_forall hfree
  rw [show l ++ '\r' :: '\n' :: t = (l ++ ['\r']) ++ '\n' :: t by simp, lines_append, hsplit,
    List.map_singleton, dropReturn_append, List.singleton_append]

/-- Lines with a text behind them that is no line end. -/
theorem lines_unlines_append {ls : List Text} (hls : ∀ l ∈ ls, '\n' ∉ l) (t : Text) :
    lines (unlines ls ++ t) = ls ++ lines t := by
  induction ls with
  | nil => rfl
  | cons l ls ih =>
    have hl := hls l List.mem_cons_self
    have hrest : ∀ m ∈ ls, '\n' ∉ m := fun m hm => hls m (List.mem_cons_of_mem _ hm)
    rw [unlines_cons, List.append_assoc, List.cons_append, List.cons_append,
      lines_append_lineEnd hl, ih hrest, List.cons_append]

theorem lines_unlines {ls : List Text} (hls : ∀ l ∈ ls, '\n' ∉ l) : lines (unlines ls) = ls := by
  have h := lines_unlines_append hls []
  rwa [List.append_nil, lines_nil, List.append_nil] at h

theorem lines_of_notMem {l : Text} (hl : '\n' ∉ l) (hne : l ≠ []) : lines l = [l] := by
  have hfree : ∀ c ∈ l, (c == '\n') = false := fun c hc =>
    beq_eq_false_iff_ne.mpr fun he => hl (he ▸ hc)
  have hsplit : splitOn '\n' l = [l] := splitBy_of_forall hfree
  simp [lines, hsplit, hne]

/-! ### Names and values -/

theorem cut_append {c : Char} {s : Text} (hs : c ∉ s) (t : Text) :
    cut c (s ++ c :: t) = some (s, t) := by
  have hne : ∀ d ∈ s, (d != c) = true := fun d hd => bne_iff_ne.mpr fun he => hs (he ▸ hd)
  simp [cut, List.dropWhile_append_of_pos hne, List.takeWhile_append_of_pos hne]

/-- What is cut off at the first `c` begins as the text does, as long as that is not `c`. -/
theorem cut_cons {c d : Char} (hd : d ≠ c) (s : Text) :
    cut c (d :: s) = (cut c s).map fun p => (d :: p.1, p.2) := by
  have hne : (d != c) = true := bne_iff_ne.mpr hd
  have hdrop : (d :: s).dropWhile (· != c) = s.dropWhile (· != c) :=
    List.dropWhile_cons_of_pos hne
  have htake : (d :: s).takeWhile (· != c) = d :: s.takeWhile (· != c) :=
    List.takeWhile_cons_of_pos hne
  rw [cut, hdrop, htake, cut]
  rcases s.dropWhile (· != c) with - | ⟨e, rest⟩ <;> rfl

/-- Are there no blanks in a text? -/
def isSolid (t : Text) : Bool := t.all fun c => !isBlank c

theorem isBlank_of_isSolid {t : Text} (ht : t.isSolid = true) : ∀ c ∈ t, isBlank c = false := by
  intro c hc
  have := List.all_eq_true.mp ht c hc
  simpa using this

theorem trim_of_forall {t : Text} (ht : ∀ c ∈ t, isBlank c = false) : trim t = t := by
  have hstart : ∀ s : Text, (∀ c ∈ s, isBlank c = false) → s.dropWhile isBlank = s := by
    intro s hs
    cases s with
    | nil => rfl
    | cons c s => exact List.dropWhile_cons_of_neg (by simp [hs c List.mem_cons_self])
  rw [trim, trimStart, hstart t ht, trimEnd,
    hstart t.reverse fun c hc => ht c (List.mem_reverse.mp hc), List.reverse_reverse]

/-- A blank in front is trimmed. -/
theorem trim_cons {c : Char} (hc : isBlank c = true) (t : Text) : trim (c :: t) = trim t := by
  rw [trim, trimStart, List.dropWhile_cons_of_pos hc]
  rfl

/-- A text that begins with no blank begins the same after it has been trimmed. -/
theorem head?_trim {c : Char} (hc : isBlank c = false) (t : Text) :
    (trim (c :: t)).head? = some c := by
  -- seen from the end, the first character is the last that could be dropped, and it stays
  have hkeep : ∀ s : Text, ((s ++ [c]).dropWhile isBlank).getLast? = some c := by
    intro s
    induction s with
    | nil => simp [hc]
    | cons d s ih =>
      rw [List.cons_append, List.dropWhile_cons]
      split
      · exact ih
      · rw [← List.cons_append, List.getLast?_concat]
  rw [trim, trimStart, List.dropWhile_cons_of_neg (by simp [hc]), trimEnd, List.head?_reverse,
    List.reverse_cons]
  exact hkeep t.reverse

/-! ### Words -/

theorem words_append_cons {w : Text} (hw : ∀ c ∈ w, isBlank c = false) (hne : w ≠ [])
    (t : Text) : words (w ++ ' ' :: t) = w :: words t := by
  rw [words, splitBy_append_cons hw (show isBlank ' ' = true by decide),
    List.filter_cons_of_pos (by simpa using hne)]
  rfl

theorem words_of_forall {w : Text} (hw : ∀ c ∈ w, isBlank c = false) (hne : w ≠ []) :
    words w = [w] := by
  rw [words, splitBy_of_forall hw, List.filter_cons_of_pos (by simpa using hne)]
  rfl

/-! ### Numbers -/

theorem digitsFrom?_append (base bound value : Nat) (s t : Text) :
    digitsFrom? base bound value (s ++ t) =
      (digitsFrom? base bound value s).bind fun v => digitsFrom? base bound v t := by
  induction s generalizing value with
  | nil => rfl
  | cons c s ih =>
    simp only [List.cons_append, digitsFrom?]
    split
    · split
      · exact ih _
      · rfl
    · rfl

theorem digitValue?_digitChar {d : Nat} (hd : d < 10) :
    digitValue? 10 (Nat.digitChar d) = some d := by
  have hall : ∀ i : Fin 10, digitValue? 10 (Nat.digitChar i) = some i.val := by decide
  exact hall ⟨d, hd⟩

/-- The digits of a number are read as the number. -/
theorem digitsFrom?_decimal {bound n : Nat} (hn : n < bound) :
    digitsFrom? 10 bound 0 (decimal n) = some n := by
  induction n using Nat.strongRecOn with
  | ind n ih =>
    rcases Nat.lt_or_ge n 10 with hlt | hge
    · rw [decimal, Nat.toDigits_of_lt_base hlt]
      simp [digitsFrom?, digitValue?_digitChar hlt, hn]
    · -- the last digit comes after the digits of the quotient
      have hmod : n % 10 < 10 := Nat.mod_lt _ (by decide)
      have hinit : digitsFrom? 10 bound 0 (Nat.toDigits 10 (n / 10)) = some (n / 10) :=
        ih (n / 10) (by omega) (by omega)
      have hvalue : n / 10 * 10 + n % 10 = n := by omega
      rw [decimal, Nat.toDigits_of_base_le (by decide) hge, digitsFrom?_append, hinit]
      simp [digitsFrom?, digitValue?_digitChar hmod, hvalue, hn]

theorem isDigit_of_mem_decimal {n : Nat} {c : Char} (hc : c ∈ decimal n) : c.isDigit = true :=
  Nat.isDigit_of_mem_toDigits (by decide) (by decide) hc

/-- A number written in decimal is read as the number. -/
theorem numeral?_decimal {bound n : Nat} (hn : n < bound) :
    numeral? 10 bound (decimal n) = some n := by
  have hne : decimal n ≠ [] := Nat.toDigits_ne_nil
  have hdigits : digits? 10 bound (decimal n) = some n := by
    rw [digits?, if_neg (by simpa using hne), digitsFrom?_decimal hn]
  unfold numeral?
  split
  · next t ht =>
    -- no digit is a plus sign
    have hplus : '+' ∈ decimal n := ht ▸ List.mem_cons_self
    exact absurd (isDigit_of_mem_decimal hplus) (by decide)
  · exact hdigits

theorem isBlank_of_isDigit {c : Char} (hc : c.isDigit = true) : isBlank c = false := by
  have hrange : 48 ≤ c.toNat ∧ c.toNat ≤ 57 := by
    simpa [Char.isDigit, UInt32.le_iff_toNat_le] using hc
  simp only [isBlank, Bool.or_eq_false_iff, Bool.and_eq_false_iff, beq_eq_false_iff_ne,
    decide_eq_false_iff_not]
  omega

end RtspServer.Text
