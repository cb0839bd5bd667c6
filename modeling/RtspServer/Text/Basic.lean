/-
RtspServer/Text/Basic.lean

The two kinds of data a media server handles: `Text`, a list of characters, for
everything that is read or written as a protocol line, and `Bytes`, a list of
octets, for media packets and for whatever crosses a socket.

Protocol names are compared without regard to ASCII case.  `Text.lower` folds
the ASCII letters and leaves every other character alone, so two names that
differ only in a letter outside ASCII stay different.
-/
namespace RtspServer

/-- A piece of protocol text, character by character. -/
abbrev Text := List Char

/-- A sequence of octets. -/
abbrev Bytes := List UInt8

namespace Text

/-- Fold the ASCII letters to lower case. -/
def lower (t : Text) : Text := t.map Char.toLower

/-- Fold the ASCII letters to upper case. -/
def upper (t : Text) : Text := t.map Char.toUpper

/-- Equality up to the case of ASCII letters. The first difference settles it. -/
def eqFold : Text → Text → Bool
  | [], [] => true
  | a :: s, b :: t => a.toLower == b.toLower && eqFold s t
  | _, _ => false

/-! ### Case folding -/

theorem eqFold_iff {a b : Text} : a.eqFold b = true ↔ a.lower = b.lower := by
  induction a generalizing b with
  | nil => cases b <;> simp [eqFold, lower]
  | cons x s ih =>
    cases b with
    | nil => simp [eqFold, lower]
    | cons y t =>
      have := @ih t
      simp_all [eqFold, lower]

@[simp] theorem eqFold_self (a : Text) : a.eqFold a = true := eqFold_iff.mpr rfl

theorem eqFold_comm (a b : Text) : a.eqFold b = b.eqFold a := by
  rw [Bool.eq_iff_iff, eqFold_iff, eqFold_iff, eq_comm]

theorem eqFold_trans {a b c : Text} (hab : a.eqFold b = true) (hbc : b.eqFold c = true) :
    a.eqFold c = true :=
  eqFold_iff.mpr ((eqFold_iff.mp hab).trans (eqFold_iff.mp hbc))

end Text

end RtspServer
