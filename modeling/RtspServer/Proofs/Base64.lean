/-
RtspServer/Proofs/Base64.lean

Base64 text is read exactly if it is the written form of some octets, and then
as those octets (`Base64.decode?_eq_some_iff`).  So there are no two ways to
write the same octets: neither padding nor bits that stand for nothing are left
to the writer.

Three octets are four digits.  Both directions follow the groups.
-/
import RtspServer.Binary.Base64
import RtspServer.Text.Blank
import Mathlib.Tactic.Common

namespace RtspServer.Base64

/-! ### Digits -/

theorem value?_digit (n : Nat) : value? (digit n) = some (n % 64) := by
  have hall : ∀ i : Fin 64, value? (digit i) = some i.val := by decide +kernel
  have hmod := hall ⟨n % 64, Nat.mod_lt _ (by decide)⟩
  simpa [digit] using hmod

/-- A character with a value is the digit of that value. -/
theorem of_value? {c : Char} {n : Nat} (h : value? c = some n) : n < 64 ∧ c = digit n := by
  obtain ⟨hlt, hget, -⟩ := List.findIdx?_eq_some_iff_getElem.mp h
  have hsize : n < 64 := hlt
  refine ⟨hsize, ?_⟩
  rw [digit, Nat.mod_eq_of_lt hsize, List.getD_eq_getElem?_getD, List.getElem?_eq_getElem hlt]
  exact (beq_iff_eq.mp hget).symm

theorem digit_ne_pad (n : Nat) : digit n ≠ '=' := by
  have hpad : value? '=' = none := by decide
  intro h
  have hvalue := value?_digit n
  rw [h, hpad] at hvalue
  cases hvalue

theorem isBlank_digit (n : Nat) : isBlank (digit n) = false := by
  have hall : ∀ i : Fin 64, isBlank (digit i) = false := by decide +kernel
  have hmod := hall ⟨n % 64, Nat.mod_lt _ (by decide)⟩
  simpa [digit] using hmod

/-- Numbers that agree in their low six bits have the same digit. -/
theorem digit_congr {m n : Nat} (h : m % 64 = n % 64) : digit m = digit n := by
  rw [digit, h, digit]

/-- Base64 text has no blanks. -/
theorem isBlank_of_mem_encode {octets : Bytes} {c : Char} (hc : c ∈ encode octets) :
    isBlank c = false := by
  have hpad : isBlank '=' = false := by decide
  fun_induction encode octets with
  | case1 a b d rest ih =>
    simp only [List.mem_cons] at hc
    rcases hc with rfl | rfl | rfl | rfl | hc
    iterate 4 exact isBlank_digit _
    exact ih hc
  | case2 a b =>
    simp only [List.mem_cons, List.not_mem_nil, or_false] at hc
    rcases hc with rfl | rfl | rfl | rfl
    iterate 3 exact isBlank_digit _
    exact hpad
  | case3 a =>
    simp only [List.mem_cons, List.not_mem_nil, or_false] at hc
    rcases hc with rfl | rfl | rfl | rfl
    iterate 2 exact isBlank_digit _
    iterate 2 exact hpad
  | case4 => cases hc

/-! ### Groups -/

/-- The octets of the digits of three octets. -/
theorem octets_of_digits (a b c : UInt8) :
    UInt8.ofNat (a.toNat / 4 % 64 * 4 + (a.toNat * 16 + b.toNat / 16) % 64 / 16) = a ∧
      UInt8.ofNat ((a.toNat * 16 + b.toNat / 16) % 64 * 16 +
        (b.toNat * 4 + c.toNat / 64) % 64 / 4) = b ∧
      UInt8.ofNat ((b.toNat * 4 + c.toNat / 64) % 64 * 64 + c.toNat % 64) = c := by
  have ha := a.toNat_lt
  have hb := b.toNat_lt
  have hc := c.toNat_lt
  refine ⟨?_, ?_, ?_⟩ <;> refine UInt8.toNat_inj.mp ?_ <;> rw [UInt8.toNat_ofNat'] <;> omega

/-- The digits of the octets of four digits. -/
theorem digits_of_octets {x y z w : Nat} (hy : y < 64) (hz : z < 64) (hw : w < 64)
    {a b c : UInt8} (ha : UInt8.ofNat (x * 4 + y / 16) = a) (hb : UInt8.ofNat (y * 16 + z / 4) = b)
    (hc : UInt8.ofNat (z * 64 + w) = c) :
    digit x = digit (a.toNat / 4) ∧ digit y = digit (a.toNat * 16 + b.toNat / 16) ∧
      digit z = digit (b.toNat * 4 + c.toNat / 64) ∧ digit w = digit c.toNat := by
  have ha : a.toNat = (x * 4 + y / 16) % 256 := ha ▸ UInt8.toNat_ofNat'
  have hb : b.toNat = (y * 16 + z / 4) % 256 := hb ▸ UInt8.toNat_ofNat'
  have hc : c.toNat = (z * 64 + w) % 256 := hc ▸ UInt8.toNat_ofNat'
  refine ⟨?_, ?_, ?_, ?_⟩ <;> exact digit_congr (by omega)

theorem decode?_group (a b c d : Char) (rest : Text) (hd : d ≠ '=') :
    decode? (a :: b :: c :: d :: rest) = (do
      let x ← value? a
      let y ← value? b
      let z ← value? c
      let w ← value? d
      let octets ← decode? rest
      some (UInt8.ofNat (x * 4 + y / 16) :: UInt8.ofNat (y * 16 + z / 4) ::
        UInt8.ofNat (z * 64 + w) :: octets)) := by
  rw [decode?]
  · exact fun _ hpad => absurd hpad hd
  · exact fun hpad => absurd hpad hd

/-! ### Reading and writing -/

/-- Octets that are written are read. -/
theorem decode?_encode (octets : Bytes) : decode? (encode octets) = some octets := by
  fun_induction encode octets with
  | case1 a b c rest ih =>
    obtain ⟨ha, hb, hc⟩ := octets_of_digits a b c
    rw [decode?_group _ _ _ _ _ (digit_ne_pad _)]
    simp only [value?_digit, ih, Option.bind_eq_bind, Option.bind_some, ha, hb, hc]
  | case2 a b =>
    obtain ⟨ha, hb, -⟩ := octets_of_digits a b 0
    have hrest : b.toNat * 4 % 64 % 4 = 0 := by omega
    rw [decode?]
    · simp only [UInt8.toNat_zero, Nat.zero_div, Nat.add_zero] at hb
      simp only [value?_digit, Option.bind_eq_bind, Option.bind_some, hrest, if_true, ha, hb]
    · exact fun hpad => absurd hpad (digit_ne_pad _)
  | case3 a =>
    obtain ⟨ha, -, -⟩ := octets_of_digits a 0 0
    have hrest : a.toNat * 16 % 64 % 16 = 0 := by omega
    rw [decode?]
    simp only [UInt8.toNat_zero, Nat.zero_div, Nat.add_zero] at ha
    simp only [value?_digit, Option.bind_eq_bind, Option.bind_some, hrest, if_true, ha]
  | case4 => rfl

/-- Text that is read was written. -/
theorem eq_encode_of_decode? {t : Text} {octets : Bytes} (h : decode? t = some octets) :
    t = encode octets := by
  fun_induction decode? t generalizing octets with
  | case1 =>
    obtain rfl := Option.some.inj h
    rfl
  | case2 a b =>
    simp only [Option.bind_eq_bind, Option.bind_eq_some_iff, Option.ite_none_right_eq_some] at h
    obtain ⟨x, hx, y, hy, hlast, h⟩ := h
    obtain ⟨-, rfl⟩ := of_value? hx
    obtain ⟨hy64, rfl⟩ := of_value? hy
    obtain rfl := Option.some.inj h
    -- the bits that are left over are those of a zero octet
    have hzero : UInt8.ofNat (y * 16 + 0 / 4) = 0 := UInt8.toNat_inj.mp (by
      rw [UInt8.toNat_ofNat', UInt8.toNat_zero]
      omega)
    obtain ⟨hx', hy', -, -⟩ := digits_of_octets hy64 (show 0 < 64 by decide)
      (show 0 < 64 by decide) rfl hzero rfl
    rw [encode, hx', hy', UInt8.toNat_zero, Nat.zero_div, Nat.add_zero]
  | case3 a b c hne =>
    simp only [Option.bind_eq_bind, Option.bind_eq_some_iff, Option.ite_none_right_eq_some] at h
    obtain ⟨x, hx, y, hy, z, hz, hlast, h⟩ := h
    obtain ⟨-, rfl⟩ := of_value? hx
    obtain ⟨hy64, rfl⟩ := of_value? hy
    obtain ⟨hz64, rfl⟩ := of_value? hz
    obtain rfl := Option.some.inj h
    have hzero : UInt8.ofNat (z * 64 + 0) = 0 := UInt8.toNat_inj.mp (by
      rw [UInt8.toNat_ofNat', UInt8.toNat_zero]
      omega)
    obtain ⟨hx', hy', hz', -⟩ := digits_of_octets hy64 hz64 (show 0 < 64 by decide) rfl rfl hzero
    rw [encode, hx', hy', hz', UInt8.toNat_zero, Nat.zero_div, Nat.add_zero]
  | case4 a b c d rest hne hne' ih =>
    simp only [Option.bind_eq_bind, Option.bind_eq_some_iff] at h
    obtain ⟨x, hx, y, hy, z, hz, w, hw, octets', hrest, h⟩ := h
    obtain ⟨-, rfl⟩ := of_value? hx
    obtain ⟨hy64, rfl⟩ := of_value? hy
    obtain ⟨hz64, rfl⟩ := of_value? hz
    obtain ⟨hw64, rfl⟩ := of_value? hw
    obtain rfl := Option.some.inj h
    obtain ⟨hx', hy', hz', hw'⟩ := digits_of_octets hy64 hz64 hw64 rfl rfl rfl
    rw [encode, ← hx', ← hy', ← hz', ← hw', ih hrest]
  | case5 => cases h

/-- **Only the written form of octets is read as them.** -/
theorem decode?_eq_some_iff {t : Text} {octets : Bytes} :
    decode? t = some octets ↔ t = encode octets :=
  ⟨eq_encode_of_decode?, fun h => h ▸ decode?_encode octets⟩

end RtspServer.Base64
