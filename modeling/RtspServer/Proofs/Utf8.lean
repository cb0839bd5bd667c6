/-
RtspServer/Proofs/Utf8.lean

Octets of a text are decoded to the text (`Utf8.decodeLenient_encode`).  One
character is one piece, so decoding goes piece by piece as encoding goes
character by character.

The octets below 128 stand for themselves and occur in no other character, so a
line feed among the octets is a line feed of the text.

Strict decoding takes only octets that are those of a text, so a text has one
written form (`Utf8.decode?_eq_some_iff`).
-/
import RtspServer.Text.Utf8
import Mathlib.Tactic.Common

namespace RtspServer.Utf8

/-! ### Pieces by their size -/

theorem takePiece_one {first : UInt8} (h : first.toNat < 128) (rest : Bytes) :
    takePiece first rest = (some (Char.ofNat first.toNat), rest) := by
  unfold takePiece
  rw [if_pos (UInt8.lt_iff_toNat_lt.mpr h)]

theorem takePiece_two {first b : UInt8} (hlow : 194 ≤ first.toNat) (hhigh : first.toNat ≤ 223)
    (hb : isTail b = true) (rest : Bytes) :
    takePiece first (b :: rest) = (some (codePoint 0xC0 first [b]), rest) := by
  unfold takePiece
  simp only [UInt8.lt_iff_toNat_lt, UInt8.le_iff_toNat_le, UInt8.reduceToNat, Bool.and_eq_true,
    decide_eq_true_eq]
  rw [if_neg (by omega), if_pos ⟨hlow, hhigh⟩, if_pos hb]

theorem takePiece_three {first b c : UInt8} (hlow : 224 ≤ first.toNat) (hhigh : first.toNat ≤ 239)
    (hb : fitsSecond first b = true) (hc : isTail c = true) (rest : Bytes) :
    takePiece first (b :: c :: rest) = (some (codePoint 0xE0 first [b, c]), rest) := by
  unfold takePiece
  simp only [UInt8.lt_iff_toNat_lt, UInt8.le_iff_toNat_le, UInt8.reduceToNat, Bool.and_eq_true,
    decide_eq_true_eq]
  rw [if_neg (by omega), if_neg (by omega), if_pos ⟨hlow, hhigh⟩, if_pos hb, if_pos hc]

theorem takePiece_four {first b c d : UInt8} (hlow : 240 ≤ first.toNat)
    (hhigh : first.toNat ≤ 244) (hb : fitsSecond first b = true) (hc : isTail c = true)
    (hd : isTail d = true) (rest : Bytes) :
    takePiece first (b :: c :: d :: rest) = (some (codePoint 0xF0 first [b, c, d]), rest) := by
  unfold takePiece
  simp only [UInt8.lt_iff_toNat_lt, UInt8.le_iff_toNat_le, UInt8.reduceToNat, Bool.and_eq_true,
    decide_eq_true_eq]
  rw [if_neg (by omega), if_neg (by omega), if_neg (by omega), if_pos ⟨hlow, hhigh⟩, if_pos hb,
    if_pos hc, if_pos hd]

/-! ### Octets of one character -/

/-- A leading octet holds its marker and the first bits of the code point. -/
theorem toNat_lead {n size marker : Nat} (hn : n < size) (hsize : size + marker ≤ 256) :
    (UInt8.ofNat (n % size + marker)).toNat = n + marker := by
  rw [UInt8.toNat_ofNat', Nat.mod_eq_of_lt hn]
  exact Nat.mod_eq_of_lt (by omega)

/-- A trailing octet holds six bits. -/
theorem toNat_tail (n : Nat) : (UInt8.ofNat (n % 64 + 128)).toNat = n % 64 + 128 := by
  rw [UInt8.toNat_ofNat']
  omega

theorem isTail_tail (n : Nat) : isTail (UInt8.ofNat (n % 64 + 128)) = true := by
  simp only [isTail, Bool.and_eq_true, decide_eq_true_eq, UInt8.le_iff_toNat_le, toNat_tail,
    UInt8.reduceToNat]
  omega

/-- The second octet of three fits: the code point is neither too small nor a surrogate. -/
theorem fitsSecond_three {v : Nat} (hlow : 0x7FF < v) (hhigh : v ≤ 0xFFFF)
    (hvalid : v < 0xD800 ∨ 0xDFFF < v) :
    fitsSecond (UInt8.ofNat (v / 4096 % 16 + 224)) (UInt8.ofNat (v / 64 % 64 + 128)) = true := by
  have hfirst := toNat_lead (n := v / 4096) (by omega) (show 16 + 224 ≤ 256 by omega)
  simp only [fitsSecond, isTail_tail, ← UInt8.toNat_inj, hfirst, UInt8.reduceToNat, toNat_tail,
    UInt8.le_iff_toNat_le]
  split_ifs <;> simp only [Bool.and_eq_true, decide_eq_true_eq] <;> omega

/-- The second octet of four fits: the code point is neither too small nor too large. -/
theorem fitsSecond_four {v : Nat} (hlow : 0xFFFF < v) (hhigh : v < 0x110000) :
    fitsSecond (UInt8.ofNat (v / 262144 % 8 + 240)) (UInt8.ofNat (v / 4096 % 64 + 128)) = true := by
  have hfirst := toNat_lead (n := v / 262144) (by omega) (show 8 + 240 ≤ 256 by omega)
  simp only [fitsSecond, isTail_tail, ← UInt8.toNat_inj, hfirst, UInt8.reduceToNat, toNat_tail,
    UInt8.le_iff_toNat_le]
  split_ifs <;> simp only [Bool.and_eq_true, decide_eq_true_eq] <;> omega

theorem codePoint_two {v : Nat} (hv : v ≤ 0x7FF) :
    codePoint 0xC0 (UInt8.ofNat (v / 64 % 32 + 192)) [UInt8.ofNat (v % 64 + 128)] =
      Char.ofNat v := by
  have hfirst := toNat_lead (n := v / 64) (by omega) (show 32 + 192 ≤ 256 by omega)
  simp only [codePoint, List.foldl_cons, List.foldl_nil, hfirst, toNat_tail]
  refine congrArg Char.ofNat ?_
  omega

theorem codePoint_three {v : Nat} (hv : v ≤ 0xFFFF) :
    codePoint 0xE0 (UInt8.ofNat (v / 4096 % 16 + 224))
      [UInt8.ofNat (v / 64 % 64 + 128), UInt8.ofNat (v % 64 + 128)] = Char.ofNat v := by
  have hfirst := toNat_lead (n := v / 4096) (by omega) (show 16 + 224 ≤ 256 by omega)
  simp only [codePoint, List.foldl_cons, List.foldl_nil, hfirst, toNat_tail]
  refine congrArg Char.ofNat ?_
  omega

theorem codePoint_four {v : Nat} (hv : v < 0x110000) :
    codePoint 0xF0 (UInt8.ofNat (v / 262144 % 8 + 240))
      [UInt8.ofNat (v / 4096 % 64 + 128), UInt8.ofNat (v / 64 % 64 + 128),
        UInt8.ofNat (v % 64 + 128)] = Char.ofNat v := by
  have hfirst := toNat_lead (n := v / 262144) (by omega) (show 8 + 240 ≤ 256 by omega)
  simp only [codePoint, List.foldl_cons, List.foldl_nil, hfirst, toNat_tail]
  refine congrArg Char.ofNat ?_
  omega

/-- A character is one piece. -/
theorem pieces_encodeChar (c : Char) (rest : Bytes) :
    pieces (String.utf8EncodeChar c ++ rest) = some c :: pieces rest := by
  have hvalid : c.toNat < 0xD800 ∨ (0xDFFF < c.toNat ∧ c.toNat < 0x110000) := c.valid
  have hc : c = Char.ofNat c.toNat := (Char.ofNat_toNat c).symm
  unfold String.utf8EncodeChar
  simp only [show c.val.toNat = c.toNat from rfl]
  generalize c.toNat = v at *
  subst hc
  -- by how many octets there are; the first one tells it
  split_ifs with h1 h2 h3
  · have hfirst : (UInt8.ofNat v).toNat = v := by
      rw [UInt8.toNat_ofNat']
      omega
    rw [List.singleton_append, pieces, takePiece_one (by omega), hfirst]
  · have hfirst := toNat_lead (n := v / 64) (by omega) (show 32 + 192 ≤ 256 by omega)
    rw [List.cons_append, List.singleton_append, pieces,
      takePiece_two (by omega) (by omega) (isTail_tail v), codePoint_two h2]
  · have hfirst := toNat_lead (n := v / 4096) (by omega) (show 16 + 224 ≤ 256 by omega)
    have hsecond := fitsSecond_three (by omega) h3 (hvalid.imp_right And.left)
    rw [List.cons_append, List.cons_append, List.singleton_append, pieces,
      takePiece_three (by omega) (by omega) hsecond (isTail_tail v), codePoint_three h3]
  · have hfirst := toNat_lead (n := v / 262144) (by omega) (show 8 + 240 ≤ 256 by omega)
    have hsecond := fitsSecond_four (v := v) (by omega) (by omega)
    rw [List.cons_append, List.cons_append, List.cons_append, List.singleton_append, pieces,
      takePiece_four (by omega) (by omega) hsecond (isTail_tail (v / 64)) (isTail_tail v),
      codePoint_four (by omega)]

/-! ### Texts -/

@[simp] theorem encode_nil : encode [] = [] := rfl

theorem encode_cons (c : Char) (t : Text) : encode (c :: t) = String.utf8EncodeChar c ++ encode t :=
  List.flatMap_cons

theorem encode_append (s t : Text) : encode (s ++ t) = encode s ++ encode t :=
  List.flatMap_append

theorem pieces_encode (t : Text) : pieces (encode t) = t.map some := by
  induction t with
  | nil => rw [encode_nil, pieces, List.map_nil]
  | cons c t ih => rw [encode_cons, pieces_encodeChar, ih, List.map_cons]

/-- **Decoding undoes encoding.** -/
theorem decodeLenient_encode (t : Text) : decodeLenient (encode t) = t := by
  rw [decodeLenient, pieces_encode, List.map_map]
  exact List.map_id t

/-! ### Octets below 128 -/

/-- An octet below 128 stands for itself. -/
theorem toNat_of_mem_encodeChar {c : Char} {b : UInt8} (hb : b.toNat < 128)
    (h : b ∈ String.utf8EncodeChar c) : b.toNat = c.toNat := by
  -- every other octet of a longer character is 128 or more
  have hlarge : ∀ {n : Nat}, b = UInt8.ofNat n → 128 ≤ n → n < 256 → False := by
    intro n he hlow hhigh
    rw [he, UInt8.toNat_ofNat'] at hb
    omega
  unfold String.utf8EncodeChar at h
  simp only [show c.val.toNat = c.toNat from rfl] at h
  generalize c.toNat = v at *
  split_ifs at h with h1 h2 h3
  · rw [List.mem_singleton.mp h, UInt8.toNat_ofNat']
    omega
  · simp only [List.mem_cons, List.not_mem_nil, or_false] at h
    rcases h with h | h <;> exact (hlarge h (by omega) (by omega)).elim
  · simp only [List.mem_cons, List.not_mem_nil, or_false] at h
    rcases h with h | h | h <;> exact (hlarge h (by omega) (by omega)).elim
  · simp only [List.mem_cons, List.not_mem_nil, or_false] at h
    rcases h with h | h | h | h <;> exact (hlarge h (by omega) (by omega)).elim

/-- An octet below 128 among those of a text is a character of the text. -/
theorem mem_of_mem_encode {c : Char} {b : UInt8} (hb : b.toNat < 128) (hc : b.toNat = c.toNat)
    {t : Text} (h : b ∈ encode t) : c ∈ t := by
  obtain ⟨d, hd, hmem⟩ := List.mem_flatMap.mp h
  have heq : d.toNat = c.toNat := (toNat_of_mem_encodeChar hb hmem).symm.trans hc
  rwa [← Char.ofNat_toNat c, ← heq, Char.ofNat_toNat]

theorem encode_ne_nil {t : Text} (ht : t ≠ []) : encode t ≠ [] := by
  rcases t with - | ⟨c, t⟩
  · exact absurd rfl ht
  · rw [encode_cons]
    exact fun h => String.utf8EncodeChar_ne_nil (List.append_eq_nil_iff.mp h).1

/-! ### Octets below 128 in any octets -/

theorem isTail_of_lt {b : UInt8} (hb : b.toNat < 128) : isTail b = false := by
  simp only [isTail, Bool.and_eq_false_iff, decide_eq_false_iff_not, UInt8.le_iff_toNat_le,
    UInt8.reduceToNat]
  omega

theorem fitsSecond_of_lt {b : UInt8} (hb : b.toNat < 128) (first : UInt8) :
    fitsSecond first b = false := by
  have hle : ∀ {low : UInt8}, 128 ≤ low.toNat → decide (low ≤ b) = false := by
    intro low hlow
    simp only [decide_eq_false_iff_not, UInt8.le_iff_toNat_le]
    omega
  unfold fitsSecond
  split_ifs <;> simp [hle, isTail_of_lt hb]

/-- An octet below 128 ends a piece that has begun. -/
theorem takePiece_append {b : UInt8} (hb : b.toNat < 128) (first : UInt8) (s rest : Bytes) :
    takePiece first (s ++ b :: rest) =
      ((takePiece first s).1, (takePiece first s).2 ++ b :: rest) := by
  have htail := isTail_of_lt hb
  have hsecond := fitsSecond_of_lt hb first
  unfold takePiece
  -- no piece is longer than four octets
  rcases s with - | ⟨c, - | ⟨d, - | ⟨e, s⟩⟩⟩ <;>
    simp only [List.nil_append, List.cons_append, htail, hsecond, Bool.false_eq_true, if_false] <;>
    split_ifs <;> rfl

theorem range_of_isTail {b : UInt8} (h : isTail b = true) : 128 ≤ b.toNat ∧ b.toNat ≤ 191 := by
  simpa [isTail, UInt8.le_iff_toNat_le] using h

/-- A second octet is a trailing one.  It makes up for a first one that holds no bits of its own,
and it keeps clear of the surrogates and of what lies behind the last code point. -/
theorem range_of_fitsSecond {first b : UInt8} (h : fitsSecond first b = true) :
    (128 ≤ b.toNat ∧ b.toNat ≤ 191) ∧ (first.toNat = 224 → 160 ≤ b.toNat) ∧
      (first.toNat = 237 → b.toNat ≤ 159) ∧ (first.toNat = 240 → 144 ≤ b.toNat) ∧
      (first.toNat = 244 → b.toNat ≤ 143) := by
  simp only [fitsSecond, isTail, ← UInt8.toNat_inj, UInt8.le_iff_toNat_le, UInt8.reduceToNat] at h
  split_ifs at h <;> simp only [Bool.and_eq_true, decide_eq_true_eq] at h <;> omega

/-- **What a piece can be**: an octet below 128 by itself, nothing well formed, or a code point
from 128 on. -/
theorem takePiece_cases (first : UInt8) (rest : Bytes) :
    (first.toNat < 128 ∧ takePiece first rest = (some (Char.ofNat first.toNat), rest)) ∨
      (takePiece first rest).1 = none ∨
      ∃ n, 128 ≤ n ∧ (takePiece first rest).1 = some (Char.ofNat n) := by
  fun_cases takePiece first rest with
  | case1 _ hlow => exact .inl ⟨UInt8.lt_iff_toNat_lt.mp hlow, rfl⟩
  | case2 _ hfirst b r _ =>
    refine .inr (.inr ⟨_, ?_, rfl⟩)
    simp only [Bool.and_eq_true, decide_eq_true_eq, UInt8.le_iff_toNat_le,
      UInt8.reduceToNat] at hfirst
    simp only [List.foldl_cons, List.foldl_nil]
    omega
  | case5 _ _ hfirst b hb c r _ =>
    refine .inr (.inr ⟨_, ?_, rfl⟩)
    have hsecond := range_of_fitsSecond hb
    simp only [Bool.and_eq_true, decide_eq_true_eq, UInt8.le_iff_toNat_le,
      UInt8.reduceToNat] at hfirst
    simp only [List.foldl_cons, List.foldl_nil]
    omega
  | case10 _ _ _ hfirst b hb c _ d r _ =>
    refine .inr (.inr ⟨_, ?_, rfl⟩)
    have hsecond := range_of_fitsSecond hb
    simp only [Bool.and_eq_true, decide_eq_true_eq, UInt8.le_iff_toNat_le,
      UInt8.reduceToNat] at hfirst
    simp only [List.foldl_cons, List.foldl_nil]
    omega
  | _ => exact .inr (.inl rfl)

/-- Of an invalid code point the character is NUL, and of a valid one it is that one. -/
theorem toNat_ofNat_eq (n : Nat) : (Char.ofNat n).toNat = n ∨ (Char.ofNat n).toNat = 0 := by
  by_cases hvalid : n.isValidChar
  · rw [Char.ofNat, dif_pos hvalid]
    exact .inl rfl
  · rw [Char.ofNat, dif_neg hvalid]
    exact .inr rfl

/-- A character below 128 that is not NUL comes from the octet that stands for it. -/
theorem takePiece_of_char {first : UInt8} {rest : Bytes} {c : Char} (hpos : 0 < c.toNat)
    (hc : c.toNat < 128) (h : (takePiece first rest).1.getD '\uFFFD' = c) :
    first.toNat = c.toNat ∧ (takePiece first rest).2 = rest := by
  rcases takePiece_cases first rest with ⟨hlow, htake⟩ | hnone | ⟨n, hn, hsome⟩
  · rw [htake] at h ⊢
    subst h
    exact ⟨((toNat_ofNat_eq _).resolve_right (Nat.ne_of_gt hpos)).symm, rfl⟩
  · rw [hnone] at h
    subst h
    exact absurd hc (by decide)
  · rw [hsome] at h
    subst h
    have := (toNat_ofNat_eq n).resolve_right (Nat.ne_of_gt hpos)
    rw [Option.getD_some, this] at hc
    exact absurd hc (Nat.not_lt.mpr hn)

theorem takePiece_suffix (first : UInt8) (rest : Bytes) : (takePiece first rest).2 <:+ rest := by
  fun_cases takePiece first rest <;>
    first
    | exact List.suffix_rfl
    | exact List.nil_suffix
    | exact List.suffix_append [_] _
    | exact List.suffix_append [_, _] _
    | exact List.suffix_append [_, _, _] _

@[simp] theorem decodeLenient_nil : decodeLenient [] = [] := by
  rw [decodeLenient, pieces, List.map_nil]

theorem decodeLenient_cons (first : UInt8) (rest : Bytes) :
    decodeLenient (first :: rest) =
      (takePiece first rest).1.getD '\uFFFD' :: decodeLenient (takePiece first rest).2 := by
  rw [decodeLenient, pieces, List.map_cons, decodeLenient]

/-- **Octets are decoded in front of an octet below 128 and behind it.** -/
theorem decodeLenient_append_cons {b : UInt8} (hb : b.toNat < 128) (s rest : Bytes) :
    decodeLenient (s ++ b :: rest) =
      decodeLenient s ++ Char.ofNat b.toNat :: decodeLenient rest := by
  fun_induction pieces s with
  | case1 =>
    rw [List.nil_append, decodeLenient_cons, takePiece_one hb, decodeLenient_nil]
    rfl
  | case2 first s ih =>
    rw [List.cons_append, decodeLenient_cons, takePiece_append hb, ih, decodeLenient_cons]
    rfl

/-- **A character below 128 other than NUL is where its octet is.** -/
theorem exists_of_decodeLenient {c : Char} (hpos : 0 < c.toNat) (hc : c.toNat < 128)
    {octets : Bytes} {s t : Text} (h : decodeLenient octets = s ++ c :: t) :
    ∃ before b after, octets = before ++ b :: after ∧ b.toNat = c.toNat ∧
      decodeLenient before = s ∧ decodeLenient after = t := by
  fun_induction pieces octets generalizing s with
  | case1 => simp at h
  | case2 first rest ih =>
    rw [decodeLenient_cons] at h
    rcases s with - | ⟨d, s⟩
    · obtain ⟨hhead, htail⟩ := List.cons.inj h
      obtain ⟨hfirst, hrest⟩ := takePiece_of_char hpos hc hhead
      rw [hrest] at htail
      exact ⟨[], first, rest, rfl, hfirst, decodeLenient_nil, htail⟩
    · obtain ⟨hhead, htail⟩ := List.cons.inj h
      obtain ⟨before, b, after, hrest, hb, hbefore, hafter⟩ := ih htail
      -- the first piece is the same without the octets from `b` on
      obtain ⟨taken, htaken⟩ := takePiece_suffix first rest
      have hsplit : rest = (taken ++ before) ++ b :: after := by
        rw [← htaken, hrest, List.append_assoc]
      have hpiece := takePiece_append (by omega : b.toNat < 128) first (taken ++ before) after
      rw [← hsplit] at hpiece
      have hleft : (takePiece first (taken ++ before)).2 = before := by
        have := (congrArg Prod.snd hpiece).symm.trans hrest
        exact List.append_cancel_right this
      refine ⟨first :: (taken ++ before), b, after, by rw [hsplit]; rfl, hb, ?_, hafter⟩
      rw [decodeLenient_cons, hleft, hbefore, ← hhead, hpiece]

/-- Octets that decode to nothing are none. -/
theorem eq_nil_of_decodeLenient {octets : Bytes} (h : decodeLenient octets = []) : octets = [] := by
  rcases octets with - | ⟨first, rest⟩
  · rfl
  · rw [decodeLenient_cons] at h
    cases h

theorem encodeChar_of_lt {c : Char} (hc : c.toNat < 128) {b : UInt8} (hb : b.toNat = c.toNat) :
    String.utf8EncodeChar c = [b] := by
  have hb' : b = UInt8.ofNat c.toNat := by
    rw [← hb, UInt8.ofNat_toNat]
  unfold String.utf8EncodeChar
  simp only [show c.val.toNat = c.toNat from rfl]
  rw [if_pos (by omega), hb']

/-- **A word of characters below 128 is where its octets are.** -/
theorem exists_of_decodeLenient_word {w : Text} (hne : w ≠ [])
    (hw : ∀ c ∈ w, 0 < c.toNat ∧ c.toNat < 128) {octets : Bytes} {s t : Text}
    (h : decodeLenient octets = s ++ (w ++ t)) :
    ∃ before after, octets = before ++ (encode w ++ after) ∧ decodeLenient before = s ∧
      decodeLenient after = t := by
  induction w generalizing octets s with
  | nil => exact absurd rfl hne
  | cons c w ih =>
    obtain ⟨hpos, hc⟩ := hw c List.mem_cons_self
    have hrest : ∀ d ∈ w, 0 < d.toNat ∧ d.toNat < 128 := fun d hd =>
      hw d (List.mem_cons_of_mem _ hd)
    obtain ⟨before, b, after, rfl, hb, hbefore, hafter⟩ := exists_of_decodeLenient hpos hc h
    have hchar := encodeChar_of_lt hc hb
    rcases w with - | ⟨d, w⟩
    · exact ⟨before, after, by rw [encode_cons, hchar]; rfl, hbefore, hafter⟩
    · -- nothing stands between one character of the word and the next
      obtain ⟨between, after', rfl, hbetween, hafter'⟩ := ih (s := []) (by nofun) hrest hafter
      obtain rfl := eq_nil_of_decodeLenient hbetween
      exact ⟨before, after', by rw [encode_cons c, hchar]; rfl, hbefore, hafter'⟩

/-! ### Strict decoding -/

/-- How a code point is written. -/
theorem encodeChar_ofNat {n : Nat} (hn : n.isValidChar) :
    String.utf8EncodeChar (Char.ofNat n) =
      if n ≤ 0x7F then [UInt8.ofNat n]
      else if n ≤ 0x7FF then [UInt8.ofNat (n / 64 % 32 + 192), UInt8.ofNat (n % 64 + 128)]
      else if n ≤ 0xFFFF then
        [UInt8.ofNat (n / 4096 % 16 + 224), UInt8.ofNat (n / 64 % 64 + 128),
          UInt8.ofNat (n % 64 + 128)]
      else
        [UInt8.ofNat (n / 262144 % 8 + 240), UInt8.ofNat (n / 4096 % 64 + 128),
          UInt8.ofNat (n / 64 % 64 + 128), UInt8.ofNat (n % 64 + 128)] := by
  have hvalue : (Char.ofNat n).val.toNat = n := by
    rw [Char.ofNat, dif_pos hn]
    rfl
  simp only [String.utf8EncodeChar, hvalue]

/-- An octet is told by its number. -/
theorem ofNat_eq_of_toNat {n : Nat} {b : UInt8} (h : n = b.toNat) : UInt8.ofNat n = b := by
  rw [h, UInt8.ofNat_toNat]

theorem encodeChar_codePoint_two {first b : UInt8} (hlow : 194 ≤ first.toNat)
    (hhigh : first.toNat ≤ 223) (hb : isTail b = true) :
    String.utf8EncodeChar (codePoint 0xC0 first [b]) = [first, b] := by
  have hb := range_of_isTail hb
  simp only [codePoint, List.foldl_cons, List.foldl_nil]
  rw [encodeChar_ofNat (.inl (by omega)), if_neg (by omega), if_pos (by omega)]
  rw [ofNat_eq_of_toNat (b := first) (by omega), ofNat_eq_of_toNat (b := b) (by omega)]

theorem encodeChar_codePoint_three {first b c : UInt8} (hlow : 224 ≤ first.toNat)
    (hhigh : first.toNat ≤ 239) (hb : fitsSecond first b = true) (hc : isTail c = true) :
    String.utf8EncodeChar (codePoint 0xE0 first [b, c]) = [first, b, c] := by
  obtain ⟨hb, hleast, hsurrogate, -, -⟩ := range_of_fitsSecond hb
  have hc := range_of_isTail hc
  have hvalid : ((first.toNat - 0xE0) * 64 + (b.toNat - 0x80)) * 64 + (c.toNat - 0x80) < 0xD800 ∨
      0xDFFF < ((first.toNat - 0xE0) * 64 + (b.toNat - 0x80)) * 64 + (c.toNat - 0x80) ∧
        ((first.toNat - 0xE0) * 64 + (b.toNat - 0x80)) * 64 + (c.toNat - 0x80) < 0x110000 := by
    omega
  simp only [codePoint, List.foldl_cons, List.foldl_nil]
  rw [encodeChar_ofNat hvalid, if_neg (by omega), if_neg (by omega), if_pos (by omega)]
  rw [ofNat_eq_of_toNat (b := first) (by omega), ofNat_eq_of_toNat (b := b) (by omega),
    ofNat_eq_of_toNat (b := c) (by omega)]

theorem encodeChar_codePoint_four {first b c d : UInt8} (hlow : 240 ≤ first.toNat)
    (hhigh : first.toNat ≤ 244) (hb : fitsSecond first b = true) (hc : isTail c = true)
    (hd : isTail d = true) :
    String.utf8EncodeChar (codePoint 0xF0 first [b, c, d]) = [first, b, c, d] := by
  obtain ⟨hb, -, -, hleast, hlast⟩ := range_of_fitsSecond hb
  have hc := range_of_isTail hc
  have hd := range_of_isTail hd
  simp only [codePoint, List.foldl_cons, List.foldl_nil]
  rw [encodeChar_ofNat (.inr ⟨by omega, by omega⟩), if_neg (by omega), if_neg (by omega),
    if_neg (by omega)]
  rw [ofNat_eq_of_toNat (b := first) (by omega), ofNat_eq_of_toNat (b := b) (by omega),
    ofNat_eq_of_toNat (b := c) (by omega), ofNat_eq_of_toNat (b := d) (by omega)]

/-- **A character is taken from the octets it is written as.** -/
theorem encodeChar_of_takePiece (first : UInt8) (rest : Bytes) :
    ∀ {c : Char}, (takePiece first rest).1 = some c →
      first :: rest = String.utf8EncodeChar c ++ (takePiece first rest).2 := by
  fun_cases takePiece first rest with
  | case1 rest hlow =>
    intro _ h
    obtain rfl := Option.some.inj h
    have hlow : first.toNat < 128 := UInt8.lt_iff_toNat_lt.mp hlow
    rw [encodeChar_ofNat (.inl (by omega)), if_pos (by omega), UInt8.ofNat_toNat]
    rfl
  | case2 _ hfirst b r hb =>
    intro _ h
    obtain rfl := Option.some.inj h
    simp only [Bool.and_eq_true, decide_eq_true_eq, UInt8.le_iff_toNat_le,
      UInt8.reduceToNat] at hfirst
    rw [encodeChar_codePoint_two hfirst.1 hfirst.2 hb]
    rfl
  | case5 _ _ hfirst b hb c r hc =>
    intro _ h
    obtain rfl := Option.some.inj h
    simp only [Bool.and_eq_true, decide_eq_true_eq, UInt8.le_iff_toNat_le,
      UInt8.reduceToNat] at hfirst
    rw [encodeChar_codePoint_three hfirst.1 hfirst.2 hb hc]
    rfl
  | case10 _ _ _ hfirst b hb c hc d r hd =>
    intro _ h
    obtain rfl := Option.some.inj h
    simp only [Bool.and_eq_true, decide_eq_true_eq, UInt8.le_iff_toNat_le,
      UInt8.reduceToNat] at hfirst
    rw [encodeChar_codePoint_four hfirst.1 hfirst.2 hb hc hd]
    rfl
  | _ => exact nofun

theorem decode?_cons (first : UInt8) (rest : Bytes) :
    decode? (first :: rest) = (takePiece first rest).1.bind fun c =>
      (decode? (takePiece first rest).2).map (c :: ·) := by
  rw [decode?, pieces, List.mapM_cons, id_eq]
  rcases (takePiece first rest).1 with - | c
  · rfl
  · rcases hrest : decode? (takePiece first rest).2 with - | t <;> rw [decode?] at hrest <;>
      simp [hrest]

/-- **Only the octets of a text are decoded to it.** -/
theorem decode?_eq_some_iff {octets : Bytes} {t : Text} :
    decode? octets = some t ↔ octets = encode t := by
  constructor
  · intro h
    fun_induction pieces octets generalizing t with
    | case1 =>
      rw [decode?, pieces] at h
      obtain rfl := Option.some.inj h
      rfl
    | case2 first rest ih =>
      rw [decode?_cons] at h
      obtain ⟨c, hc, h⟩ := Option.bind_eq_some_iff.mp h
      obtain ⟨u, hu, rfl⟩ := Option.map_eq_some_iff.mp h
      rw [encodeChar_of_takePiece first rest hc, ih hu, encode_cons]
  · rintro rfl
    rw [decode?, pieces_encode]
    induction t with
    | nil => rfl
    | cons c t ih => rw [List.map_cons, List.mapM_cons, ih]; rfl

end RtspServer.Utf8
