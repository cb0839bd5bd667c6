/-
RtspServer/Proofs/Literal.lean

The characters of an address literal.  What is read as an IPv4 address holds
digits and dots.  What is read as an IPv6 address may hold colons too, and it does
hold one: without a colon there would be one group at most, or an IPv4 address.

So none of the characters that tell the parts of a URI apart stands in a literal,
but for the colons of an IPv6 address, which is why it is written in brackets.
-/
import RtspServer.Net.Address
import RtspServer.Proofs.Cutting
import RtspServer.Proofs.OneLine

namespace RtspServer

namespace Text

/-! ### Digits and pieces -/

/-- A hexadecimal digit, by its place among the characters. -/
def IsHexDigit (c : Char) : Prop :=
  (48 ≤ c.toNat ∧ c.toNat ≤ 57) ∨ (65 ≤ c.toNat ∧ c.toNat ≤ 70) ∨ (97 ≤ c.toNat ∧ c.toNat ≤ 102)

theorem isHexDigit_of_digitValue? {base : Nat} {c : Char} {d : Nat}
    (h : digitValue? base c = some d) : IsHexDigit c := by
  have hrange : ∀ a b : Char, (decide (a ≤ c) && decide (c ≤ b)) = true →
      a.toNat ≤ c.toNat ∧ c.toNat ≤ b.toNat := by
    intro a b hc
    rw [Bool.and_eq_true, decide_eq_true_eq, decide_eq_true_eq] at hc
    exact hc
  by_cases hdecimal : (decide ('0' ≤ c) && decide (c ≤ '9')) = true
  · exact .inl (hrange _ _ hdecimal)
  by_cases hlower : (decide ('a' ≤ c) && decide (c ≤ 'f')) = true
  · exact .inr (.inr (hrange _ _ hlower))
  by_cases hupper : (decide ('A' ≤ c) && decide (c ≤ 'F')) = true
  · exact .inr (.inl (hrange _ _ hupper))
  · simp only [digitValue?, hdecimal, hlower, hupper, Bool.false_eq_true, if_false,
      Nat.lt_irrefl] at h
    cases h

theorem isHexDigit_of_digitsFrom? {base bound value n : Nat} {t : Text}
    (h : digitsFrom? base bound value t = some n) : ∀ c ∈ t, IsHexDigit c := by
  fun_induction digitsFrom? base bound value t with
  | case1 => exact fun _ hc => absurd hc List.not_mem_nil
  | case2 value c t d hd hlt ih =>
    exact List.forall_mem_cons.mpr ⟨isHexDigit_of_digitValue? hd, ih h⟩
  | case3 => cases h
  | case4 => cases h

theorem isHexDigit_of_digits? {base bound n : Nat} {t : Text}
    (h : digits? base bound t = some n) : ∀ c ∈ t, IsHexDigit c := by
  unfold digits? at h
  split_ifs at h
  exact isHexDigit_of_digitsFrom? h

/-- A character is a separator, or it stands in a piece. -/
theorem mem_splitBy_of_mem {p : Char → Bool} {t : Text} {c : Char} (hc : c ∈ t) :
    p c = true ∨ ∃ piece ∈ splitBy p t, c ∈ piece := by
  induction t with
  | nil => cases hc
  | cons d t ih =>
    cases hd : p d with
    | true =>
      rw [splitBy_cons_of_pos hd]
      rcases List.mem_cons.mp hc with rfl | hc
      · exact .inl hd
      · exact (ih hc).imp_right fun ⟨piece, hpiece, hmem⟩ =>
          ⟨piece, List.mem_cons_of_mem _ hpiece, hmem⟩
    | false =>
      obtain ⟨first, rest, hsplit⟩ := List.exists_cons_of_ne_nil (splitBy_ne_nil p t)
      rw [splitBy_cons_of_neg hd hsplit]
      rcases List.mem_cons.mp hc with rfl | hc
      · exact .inr ⟨_, List.mem_cons_self, List.mem_cons_self⟩
      · refine (ih hc).imp_right fun ⟨piece, hpiece, hmem⟩ => ?_
        rw [hsplit] at hpiece
        rcases List.mem_cons.mp hpiece with rfl | hpiece
        · exact ⟨_, List.mem_cons_self, List.mem_cons_of_mem _ hmem⟩
        · exact ⟨piece, List.mem_cons_of_mem _ hpiece, hmem⟩

/-- What holds of the separator and of every piece holds of the text. -/
theorem forall_of_splitOn {P : Char → Prop} {sep : Char} {t : Text} (hsep : P sep)
    (hpieces : ∀ piece ∈ t.splitOn sep, ∀ c ∈ piece, P c) : ∀ c ∈ t, P c := by
  intro c hc
  rcases mem_splitBy_of_mem (p := (· == sep)) hc with he | ⟨piece, hpiece, hmem⟩
  · exact eq_of_beq he ▸ hsep
  · exact hpieces piece hpiece c hmem

end Text

namespace IpAddress

/-- A character of an IPv4 literal. -/
def IsDotted (c : Char) : Prop := Text.IsHexDigit c ∨ c = '.'

/-- A character of an IPv6 literal. -/
def IsGrouped (c : Char) : Prop := IsDotted c ∨ c = ':'

variable {c : Char}

/-- No character of an IPv4 literal is a blank, a colon, or one of the other separators of a URI. -/
theorem IsDotted.plain (h : IsDotted c) : isBlank c = false ∧ c ∉ ['/', '@', ':', '[', ']'] := by
  have hplace : (48 ≤ c.toNat ∧ c.toNat ≤ 57) ∨ (65 ≤ c.toNat ∧ c.toNat ≤ 70) ∨
      (97 ≤ c.toNat ∧ c.toNat ≤ 102) ∨ c.toNat = 46 := by
    rcases h with (hdecimal | hupper | hlower) | rfl
    · exact .inl hdecimal
    · exact .inr (.inl hupper)
    · exact .inr (.inr (.inl hlower))
    · exact .inr (.inr (.inr rfl))
  constructor
  · simp only [isBlank, Bool.or_eq_false_iff, Bool.and_eq_false_iff, beq_eq_false_iff_ne,
      decide_eq_false_iff_not]
    omega
  · intro hc
    have hsep : c.toNat ∈ [47, 64, 58, 91, 93] := List.mem_map_of_mem hc
    simp only [List.mem_cons, List.not_mem_nil, or_false] at hsep
    omega

/-! ### Reading -/

theorem isDotted_of_dottedOctet? {t : Text} {x : UInt8} (h : dottedOctet? t = some x) :
    ∀ c ∈ t, IsDotted c := by
  unfold dottedOctet? at h
  split_ifs at h
  obtain ⟨n, hn, -⟩ := Option.map_eq_some_iff.mp h
  exact fun c hc => .inl (Text.isHexDigit_of_digits? hn c hc)

theorem isDotted_of_readV4? {t : Text} {a b c d : UInt8} (h : readV4? t = some (a, b, c, d)) :
    ∀ c ∈ t, IsDotted c := by
  unfold readV4? at h
  split at h
  · next a b c d hpieces =>
    refine Text.forall_of_splitOn (.inr rfl) fun piece hpiece => ?_
    have hread : dottedOctet? piece ∈ [some a, some b, some c, some d] :=
      hpieces ▸ List.mem_map_of_mem hpiece
    obtain ⟨x, hx⟩ : ∃ x, dottedOctet? piece = some x := by
      simp only [List.mem_cons, List.not_mem_nil, or_false] at hread
      rcases hread with e | e | e | e <;> exact ⟨_, e⟩
    exact isDotted_of_dottedOctet? hx
  · cases h

theorem isGrouped_of_group? {t : Text} {g : UInt16} (h : group? t = some g) :
    ∀ c ∈ t, IsGrouped c := by
  unfold group? at h
  split_ifs at h
  obtain ⟨n, hn, -⟩ := Option.map_eq_some_iff.mp h
  exact fun c hc => .inl (.inl (Text.isHexDigit_of_digits? hn c hc))

/-- What is read piece by piece is one group for every piece. -/
theorem map_of_mapM_group? {pieces : List Text} {groups : List UInt16}
    (h : pieces.mapM group? = some groups) : pieces.map group? = groups.map some := by
  induction pieces generalizing groups with
  | nil =>
    cases h
    rfl
  | cons piece pieces ih =>
    rw [List.mapM_cons] at h
    obtain ⟨g, hg, h⟩ := Option.bind_eq_some_iff.mp h
    obtain ⟨rest, hrest, h⟩ := Option.bind_eq_some_iff.mp h
    cases h
    rw [List.map_cons, List.map_cons, hg, ih hrest]

theorem isGrouped_of_mapM_group? {pieces : List Text} {groups : List UInt16}
    (h : pieces.mapM group? = some groups) : ∀ piece ∈ pieces, ∀ c ∈ piece, IsGrouped c := by
  intro piece hpiece
  have hread : group? piece ∈ groups.map some := map_of_mapM_group? h ▸ List.mem_map_of_mem hpiece
  obtain ⟨g, -, hg⟩ := List.mem_map.mp hread
  exact isGrouped_of_group? hg.symm

/-- Groups are read from every piece, or the last piece is an IPv4 address. -/
theorem groups?_cases {t : Text} {groups : List UInt16} (h : groups? t = some groups) :
    (t = [] ∧ groups = []) ∨ (t.splitOn ':').mapM group? = some groups ∨
      ∃ front last before octets, t.splitOn ':' = front ++ [last] ∧
        front.mapM group? = some before ∧ readV4? last = some octets ∧
        groups.length = before.length + 2 := by
  unfold groups? at h
  split_ifs at h with hnil
  · exact .inl ⟨List.isEmpty_iff.mp hnil, (Option.some.inj h).symm⟩
  · dsimp only at h
    split at h
    · next gs hgs =>
      cases h
      exact .inr (.inl hgs)
    · obtain ⟨before, hbefore, h⟩ := Option.bind_eq_some_iff.mp h
      obtain ⟨octets, hoctets, h⟩ := Option.bind_eq_some_iff.mp h
      cases h
      obtain ⟨front, last, hpieces⟩ :=
        (List.eq_nil_or_concat' (t.splitOn ':')).resolve_left (Text.splitBy_ne_nil _ t)
      rw [hpieces, List.dropLast_concat] at hbefore
      rw [hpieces, List.getLastD_concat] at hoctets
      exact .inr (.inr ⟨front, last, before, octets, hpieces, hbefore, hoctets, by simp⟩)

theorem isGrouped_of_groups? {t : Text} {groups : List UInt16} (h : groups? t = some groups) :
    ∀ c ∈ t, IsGrouped c := by
  rcases groups?_cases h with
    ⟨rfl, -⟩ | hall | ⟨front, last, before, octets, hpieces, hfront, hlast, -⟩
  · exact fun _ hc => absurd hc List.not_mem_nil
  · exact Text.forall_of_splitOn (.inr rfl) (isGrouped_of_mapM_group? hall)
  · refine Text.forall_of_splitOn (.inr rfl) fun piece hpiece => ?_
    rw [hpieces] at hpiece
    rcases List.mem_append.mp hpiece with hpiece | hpiece
    · exact isGrouped_of_mapM_group? hfront piece hpiece
    · rw [List.mem_singleton.mp hpiece]
      exact fun c hc => .inl (isDotted_of_readV4? hlast c hc)

/-- Without a colon there are two groups at most. -/
theorem length_le_two_of_groups? {t : Text} {groups : List UInt16} (h : groups? t = some groups)
    (hcolon : ':' ∉ t) : groups.length ≤ 2 := by
  have hpieces : t.splitOn ':' = [t] :=
    Text.splitBy_of_forall fun c hc => beq_eq_false_iff_ne.mpr fun he => hcolon (he ▸ hc)
  rcases groups?_cases h with
    ⟨-, rfl⟩ | hall | ⟨front, last, before, octets, hsplit, hfront, -, hlength⟩
  · exact Nat.zero_le 2
  · have := congrArg List.length (map_of_mapM_group? hall)
    rw [hpieces, List.length_map, List.length_map] at this
    rw [← this]
    exact Nat.le_succ 1
  · have hfirst : front = [] := by
      have := congrArg List.length (hsplit.symm.trans hpieces)
      simpa using this
    have := congrArg List.length (map_of_mapM_group? hfront)
    rw [hfirst, List.length_map, List.length_map] at this
    rw [hlength, ← this]
    exact Nat.le_refl 2

/-- **The characters of an IPv6 literal.** -/
theorem isGrouped_of_readV6? {t : Text} {groups : List UInt16} (h : readV6? t = some groups) :
    ∀ c ∈ t, IsGrouped c := by
  unfold readV6? at h
  split at h
  · exact isGrouped_of_groups? h
  · next front back hcut =>
    obtain ⟨ht, -⟩ := Text.of_cutAt (by decide) hcut
    dsimp only at h
    split_ifs at h
    · cases h
    obtain ⟨before, hbefore, h⟩ := Option.bind_eq_some_iff.mp h
    obtain ⟨after, hafter, h⟩ := Option.bind_eq_some_iff.mp h
    rw [ht]
    intro c hc
    rcases List.mem_append.mp hc with hc | hc
    · exact isGrouped_of_groups? hbefore c hc
    rcases List.mem_append.mp hc with hc | hc
    · have hcolons : c ∈ [':', ':'] := hc
      exact .inr (by simpa using hcolons)
    · exact isGrouped_of_groups? hafter c hc

/-- **An IPv6 literal holds a colon.** -/
theorem colon_mem_of_readV6? {t : Text} {groups : List UInt16} (h : readV6? t = some groups)
    (hlength : groups.length = 8) : ':' ∈ t := by
  by_contra hcolon
  unfold readV6? at h
  split at h
  · have := length_le_two_of_groups? h hcolon
    omega
  · next front back hcut =>
    obtain ⟨ht, -⟩ := Text.of_cutAt (by decide) hcut
    refine hcolon ?_
    rw [ht]
    exact List.mem_append_right _ (List.mem_append_left _ (by decide))

theorem isDotted_of_read? {t : Text} {a b c d : UInt8} (h : read? t = some (.v4 a b c d)) :
    ∀ x ∈ t, IsDotted x := by
  unfold read? at h
  split at h
  · next hread =>
    exact isDotted_of_readV4? hread
  · obtain ⟨groups, -, h⟩ := Option.bind_eq_some_iff.mp h
    split_ifs at h
    cases h

theorem readV6?_of_read? {t : Text} {groups : Vector UInt16 8} (h : read? t = some (.v6 groups)) :
    ∃ gs, readV6? t = some gs ∧ gs.length = 8 := by
  unfold read? at h
  split at h
  · cases h
  · obtain ⟨gs, hgs, h⟩ := Option.bind_eq_some_iff.mp h
    split_ifs at h with hlength
    exact ⟨gs, hgs, hlength⟩

end IpAddress

end RtspServer
