/-
RtspServer/Proofs/Scheme.lean

What stands behind the name of a scheme in a header value.  Blanks around the
name and around what follows it do not count, and neither does ASCII case, but
one blank that is a space has to follow the name (`dropScheme?_eq_some_iff`).

Trimmed text is what stands between blanks (`Text.exists_of_trim`), and case
makes no blank (`isBlank_toLower`).
-/
import RtspServer.Auth.Credential
import RtspServer.Proofs.Cutting

namespace RtspServer

/-! ### Case and blanks -/

/-- A letter is no blank in either case. -/
theorem isBlank_toLower (c : Char) : isBlank c.toLower = isBlank c := by
  have hletter : ∀ {d : Char}, 65 ≤ d.toNat → d.toNat ≤ 122 → isBlank d = false := by
    intro d hlow hhigh
    simp only [isBlank, Bool.or_eq_false_iff, Bool.and_eq_false_iff, beq_eq_false_iff_ne,
      decide_eq_false_iff_not]
    omega
  unfold Char.toLower
  split
  · next h =>
    have hrange : 65 ≤ c.toNat ∧ c.toNat ≤ 90 := by
      simpa [UInt32.le_iff_toNat_le] using h
    have hlower : (c.val + 32).toNat = c.toNat + 32 := by
      rw [UInt32.toNat_add]
      exact Nat.mod_eq_of_lt (by simp only [UInt32.reduceToNat]; show c.toNat + 32 < _; omega)
    rw [hletter hrange.1 (by omega)]
    exact hletter (by show 65 ≤ (c.val + 32).toNat; omega) (by show (c.val + 32).toNat ≤ 122; omega)
  · rfl

namespace Text

theorem length_of_eqFold {s t : Text} (h : s.eqFold t = true) : s.length = t.length := by
  have hlength := congrArg List.length (eqFold_iff.mp h)
  simpa [lower] using hlength

/-- Names that agree up to case are free of blanks together. -/
theorem isBlank_of_eqFold {s t : Text} (h : s.eqFold t = true)
    (ht : ∀ c ∈ t, isBlank c = false) : ∀ c ∈ s, isBlank c = false := by
  intro c hc
  have hlower : c.toLower ∈ t.lower := eqFold_iff.mp h ▸ List.mem_map_of_mem hc
  obtain ⟨d, hd, heq⟩ := List.mem_map.mp hlower
  rw [← isBlank_toLower, ← heq, isBlank_toLower, ht d hd]

/-! ### Text between blanks -/

theorem trimStart_append {lead : Text} (hlead : lead.isBlankLine = true) (t : Text) :
    trimStart (lead ++ t) = trimStart t :=
  List.dropWhile_append_of_pos (List.all_eq_true.mp hlead)

theorem trimStart_of_forall {t : Text} (ht : ∀ c ∈ t, isBlank c = false) (hne : t ≠ [])
    (u : Text) : trimStart (t ++ u) = t ++ u := by
  rcases t with - | ⟨c, t⟩
  · exact absurd rfl hne
  · exact List.dropWhile_cons_of_neg (by simp [ht c List.mem_cons_self])

theorem exists_of_trimStart (t : Text) :
    ∃ lead : Text, lead.isBlankLine = true ∧ t = lead ++ t.trimStart :=
  ⟨t.takeWhile isBlank, List.all_takeWhile, List.takeWhile_append_dropWhile.symm⟩

theorem isBlankLine_reverse (t : Text) : isBlankLine t.reverse = isBlankLine t := List.all_reverse

theorem trimEnd_append {tail : Text} (htail : tail.isBlankLine = true) (t : Text) :
    trimEnd (t ++ tail) = trimEnd t := by
  have hblank : isBlankLine tail.reverse = true := (isBlankLine_reverse tail).trans htail
  rw [trimEnd, trimEnd, List.reverse_append]
  exact congrArg List.reverse (trimStart_append hblank t.reverse)

theorem exists_of_trimEnd (t : Text) :
    ∃ tail : Text, tail.isBlankLine = true ∧ t = t.trimEnd ++ tail := by
  obtain ⟨lead, hlead, hrest⟩ := exists_of_trimStart t.reverse
  refine ⟨lead.reverse, (isBlankLine_reverse lead).trans hlead, ?_⟩
  have hreverse := congrArg List.reverse hrest
  rwa [List.reverse_reverse, List.reverse_append] at hreverse

theorem trim_append_left {lead : Text} (hlead : lead.isBlankLine = true) (t : Text) :
    trim (lead ++ t) = trim t :=
  congrArg trimEnd (trimStart_append hlead t)

theorem trim_between {lead tail : Text} (hlead : lead.isBlankLine = true)
    (htail : tail.isBlankLine = true) (t : Text) : trim (lead ++ (t ++ tail)) = trim t := by
  rw [trim_append_left hlead, trim, trim, trimStart, List.dropWhile_append]
  split
  · next hnone =>
    -- there are only blanks
    have htail : tail.dropWhile isBlank = [] :=
      List.dropWhile_eq_nil_iff.mpr (List.all_eq_true.mp htail)
    rw [htail, trimStart, List.isEmpty_iff.mp hnone]
  · exact trimEnd_append htail _

/-- **Trimmed text is what stands between blanks.** -/
theorem exists_of_trim (t : Text) : ∃ lead tail : Text, lead.isBlankLine = true ∧
    tail.isBlankLine = true ∧ t = lead ++ (t.trim ++ tail) := by
  obtain ⟨lead, hlead, hstart⟩ := exists_of_trimStart t
  obtain ⟨tail, htail, hend⟩ := exists_of_trimEnd t.trimStart
  exact ⟨lead, tail, hlead, htail, hstart.trans (congrArg (lead ++ ·) hend)⟩

/-- Trimmed text has nothing left to trim. -/
theorem trim_trim (t : Text) : trim (trim t) = trim t := by
  obtain ⟨lead, tail, hlead, htail, ht⟩ := exists_of_trim t
  conv_rhs => rw [ht]
  exact (trim_between hlead htail _).symm

end Text

/-- **What follows the name of a scheme.** -/
theorem dropScheme?_eq_some_iff {scheme : String}
    (hsolid : scheme.toList.any isBlank = false) (hne : scheme.toList ≠ [])
    {value rest : Text} :
    dropScheme? scheme value = some rest ↔ ∃ lead word after : Text,
      lead.isBlankLine = true ∧ word.eqFold scheme.toList = true ∧
        value = lead ++ (word ++ ' ' :: after) ∧ rest = after.trimStart := by
  have hspace : ∀ t : Text, Text.trimStart (' ' :: t) = t.trimStart := fun t =>
    List.dropWhile_cons_of_pos (by decide)
  have hsolid : ∀ c ∈ scheme.toList, isBlank c = false := fun c hc =>
    Bool.eq_false_iff.mpr (List.any_eq_false.mp hsolid c hc)
  constructor
  · intro h
    simp only [dropScheme?, Option.ite_none_right_eq_some, Bool.and_eq_true, beq_iff_eq] at h
    obtain ⟨⟨hword, hhead⟩, hrest⟩ := h
    obtain ⟨after, hafter⟩ := List.head?_eq_some_iff.mp hhead
    obtain ⟨lead, hlead, hvalue⟩ := Text.exists_of_trimStart value
    refine ⟨lead, _, after, hlead, hword, ?_, ?_⟩
    · rw [← hafter, List.take_append_drop]
      exact hvalue
    · rw [← Option.some.inj hrest, hafter, hspace]
  · rintro ⟨lead, word, after, hlead, hword, rfl, rfl⟩
    have hlength : scheme.toList.length = word.length := (Text.length_of_eqFold hword).symm
    have hword_ne : word ≠ [] := by
      rintro rfl
      exact hne (List.length_eq_zero_iff.mp hlength)
    have hstart : Text.trimStart (lead ++ (word ++ ' ' :: after)) = word ++ ' ' :: after := by
      rw [Text.trimStart_append hlead]
      exact Text.trimStart_of_forall (Text.isBlank_of_eqFold hword hsolid) hword_ne _
    simp only [dropScheme?, hstart, hlength, List.take_left, List.drop_left, hword, List.head?_cons,
      beq_self_eq_true, Bool.and_self, if_true, hspace]

end RtspServer
