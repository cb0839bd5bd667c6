/-
RtspServer/Binary/Base64.lean

Base64 (RFC 4648, section 4) with the standard alphabet.  Reading is strict:
padding is required, nothing may follow it, and the bits it stands for must be
zero, so every sequence of octets has exactly one written form.
-/
import RtspServer.Text.Basic

namespace RtspServer.Base64

/-- The sixty-four digits in order. -/
def alphabet : Text := "ABCDEFGHIJKLMNOPQRSTUVWXYZabcdefghijklmnopqrstuvwxyz0123456789+/".toList

/-- The digit for a number below sixty-four. -/
def digit (n : Nat) : Char := alphabet.getD (n % 64) 'A'

/-- The number a digit stands for. -/
def value? (c : Char) : Option Nat := alphabet.findIdx? (· == c)

/-- Write octets in groups of three. -/
def encode : Bytes → Text
  | a :: b :: c :: rest =>
    digit (a.toNat / 4) :: digit (a.toNat * 16 + b.toNat / 16) ::
      digit (b.toNat * 4 + c.toNat / 64) :: digit c.toNat :: encode rest
  | [a, b] =>
    [digit (a.toNat / 4), digit (a.toNat * 16 + b.toNat / 16), digit (b.toNat * 4), '=']
  | [a] => [digit (a.toNat / 4), digit (a.toNat * 16), '=', '=']
  | [] => []

/-- Read octets in groups of four digits. -/
def decode? : Text → Option Bytes
  | [] => some []
  | [a, b, '=', '='] => do
    let x ← value? a
    let y ← value? b
    if y % 16 = 0 then some [UInt8.ofNat (x * 4 + y / 16)] else none
  | [a, b, c, '='] => do
    let x ← value? a
    let y ← value? b
    let z ← value? c
    if z % 4 = 0 then
      some [UInt8.ofNat (x * 4 + y / 16), UInt8.ofNat (y * 16 + z / 4)]
    else none
  | a :: b :: c :: d :: rest => do
    let x ← value? a
    let y ← value? b
    let z ← value? c
    let w ← value? d
    let octets ← decode? rest
    some (UInt8.ofNat (x * 4 + y / 16) :: UInt8.ofNat (y * 16 + z / 4) ::
      UInt8.ofNat (z * 64 + w) :: octets)
  | _ => none

/-! ### Examples of the rules -/

example : encode [102, 111, 111, 98] = "Zm9vYg==".toList := by decide
example : decode? "Zm9vYg==".toList = some [102, 111, 111, 98] := by decide
example : decode? "Zm9vYh==".toList = none := by decide
example : decode? "Zm9vYg".toList = none := by decide

end RtspServer.Base64
