/-
RtspServer/Text/Numeral.lean

Numerals.  Numbers are written in decimal without leading zeros, or in
hexadecimal with a fixed number of digits.  They are read leniently: leading
zeros and one plus sign are allowed, and in hexadecimal both cases, but a
number that does not fit its field is no number at all.
-/
import RtspServer.Text.Basic

namespace RtspServer.Text

/-- A natural number in decimal. -/
def decimal (n : Nat) : Text := Nat.toDigits 10 n

/-- The low `width` hexadecimal digits of a number, in lower case. -/
def hexLower : Nat → Nat → Text
  | 0, _ => []
  | width + 1, n => hexLower width (n / 16) ++ [Nat.digitChar (n % 16)]

/-- The low `width` hexadecimal digits of a number, in upper case. -/
def hexUpper (width n : Nat) : Text := (hexLower width n).upper

/-- Octets in hexadecimal, two lower case digits each. -/
def hexBytes (b : Bytes) : Text := b.flatMap fun x => hexLower 2 x.toNat

/-- The value of a digit in a base of at most sixteen. -/
def digitValue? (base : Nat) (c : Char) : Option Nat :=
  let v := if '0' ≤ c && c ≤ '9' then c.toNat - 48
    else if 'a' ≤ c && c ≤ 'f' then c.toNat - 87
    else if 'A' ≤ c && c ≤ 'F' then c.toNat - 55
    else base
  if v < base then some v else none

/-- The value of a text of digits, read after `value`.  It is given up at the first digit that
takes it to `bound`, so the value stays small however long the text is. -/
def digitsFrom? (base bound : Nat) : Nat → Text → Option Nat
  | value, [] => some value
  | value, c :: t =>
    match digitValue? base c with
    | some d =>
      if value * base + d < bound then digitsFrom? base bound (value * base + d) t else none
    | none => none

/-- A number below `bound` by its digits, of which there is at least one. -/
def digits? (base bound : Nat) (t : Text) : Option Nat :=
  if t.isEmpty then none else digitsFrom? base bound 0 t

/-- A numeral below `bound`: digits after an optional plus sign. -/
def numeral? (base bound : Nat) : Text → Option Nat
  | '+' :: t => digits? base bound t
  | t => digits? base bound t

/-- A decimal numeral that fits one octet. -/
def octet? (t : Text) : Option UInt8 := (numeral? 10 UInt8.size t).map UInt8.ofNat

/-- A decimal numeral that fits sixteen bits. -/
def word16? (t : Text) : Option UInt16 := (numeral? 10 UInt16.size t).map UInt16.ofNat

/-- A hexadecimal numeral that fits thirty-two bits. -/
def hexWord32? (t : Text) : Option UInt32 := (numeral? 16 UInt32.size t).map UInt32.ofNat

/-! ### Digits -/

theorem hexUpper_succ (width n : Nat) :
    hexUpper (width + 1) n = hexUpper width (n / 16) ++ [(Nat.digitChar (n % 16)).toUpper] := by
  simp [hexUpper, hexLower, upper]

/-- There are sixteen characters that hexadecimal numbers are written with. -/
theorem of_mem_hexLower {width n : Nat} {c : Char} (hc : c ∈ hexLower width n) :
    ∃ d, d < 16 ∧ c = Nat.digitChar d := by
  induction width generalizing n with
  | zero => cases hc
  | succ width ih =>
    rcases List.mem_append.mp hc with hc | hc
    · exact ih hc
    · exact ⟨n % 16, Nat.mod_lt _ (by decide), List.mem_singleton.mp hc⟩

theorem of_mem_hexUpper {width n : Nat} {c : Char} (hc : c ∈ hexUpper width n) :
    ∃ d, d < 16 ∧ c = (Nat.digitChar d).toUpper := by
  obtain ⟨digit, hdigit, rfl⟩ := List.mem_map.mp hc
  obtain ⟨d, hd, rfl⟩ := of_mem_hexLower hdigit
  exact ⟨d, hd, rfl⟩

/-! ### Examples of the rules -/

example : numeral? 10 100 "+07".toList = some 7 := by decide
example : numeral? 10 100 "100".toList = none := by decide
example : numeral? 10 100 "-1".toList = none := by decide
example : numeral? 10 100 "+".toList = none := by decide
example : numeral? 16 256 "fF".toList = some 255 := by decide
example : hexUpper 8 0xA = "0000000A".toList := by decide

end RtspServer.Text
