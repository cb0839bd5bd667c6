/-
RtspServer/Text/Quoted.lean

Quoted text, as status lines show it to a person: between double quotes, with a
backslash before a quote or a backslash, the usual letters for NUL, tab, LF and
CR, and the code point in braces for every character that does not print.
-/
import RtspServer.Text.Numeral
import RtspServer.Text.Unprinted

namespace RtspServer.Text

/-- A natural number in lower case hexadecimal, without leading zeros. -/
def hexadecimal (n : Nat) : Text := Nat.toDigits 16 n

/-- One character inside quotes. -/
def quoteChar (c : Char) : Text :=
  match c with
  | '\x00' => "\\0".toList
  | '\t' => "\\t".toList
  | '\n' => "\\n".toList
  | '\r' => "\\r".toList
  | '"' => "\\\"".toList
  | '\\' => "\\\\".toList
  | c =>
    if isUnprinted c then "\\u\x7b".toList ++ hexadecimal c.toNat ++ "\x7d".toList else [c]

/-- A text in double quotes. -/
def quoted (t : Text) : Text := '"' :: t.flatMap quoteChar ++ ['"']

/-! ### Examples of the rules -/

example : quoted "a\"b\\".toList = "\"a\\\"b\\\\\"".toList := by decide
example : quoted "\x01".toList = "\"\\u\x7b1\x7d\"".toList := by decide

end RtspServer.Text
