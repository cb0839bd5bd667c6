/-
RtspServer/Text/Utf8.lean

UTF-8 (RFC 3629).  Decoding walks the octets in pieces: each piece is one
encoded character or a longest ill-formed start of one.  Strict decoding wants
characters only; lenient decoding puts U+FFFD for every ill-formed piece, so it
gives a text for any octets at all.
-/
import RtspServer.Text.Basic

namespace RtspServer.Utf8

/-- The octets of a text. -/
def encode (t : Text) : Bytes := t.flatMap String.utf8EncodeChar

/-- A trailing octet: ten, then six bits of the code point. -/
def isTail (b : UInt8) : Bool := 0x80 ≤ b && b ≤ 0xBF

/-- Does `second` fit as the second octet after `first` in a character of three or four octets?
The bounds leave out overlong forms, surrogates and code points above U+10FFFF. -/
def fitsSecond (first second : UInt8) : Bool :=
  if first = 0xE0 then 0xA0 ≤ second && second ≤ 0xBF
  else if first = 0xED then 0x80 ≤ second && second ≤ 0x9F
  else if first = 0xF0 then 0x90 ≤ second && second ≤ 0xBF
  else if first = 0xF4 then 0x80 ≤ second && second ≤ 0x8F
  else isTail second

/-- The code point held by a first octet of `lead` bits offset and its trailing octets. -/
def codePoint (lead : Nat) (first : UInt8) (tails : Bytes) : Char :=
  Char.ofNat (tails.foldl (fun n b => n * 64 + (b.toNat - 0x80)) (first.toNat - lead))

/-- The piece that starts with the octet `first`: a character or an ill-formed piece, and what
is left after it. -/
def takePiece (first : UInt8) (rest : Bytes) : Option Char × Bytes :=
  if first < 0x80 then (some (Char.ofNat first.toNat), rest)
  else if 0xC2 ≤ first && first ≤ 0xDF then
    match rest with
    | b :: r => if isTail b then (some (codePoint 0xC0 first [b]), r) else (none, rest)
    | [] => (none, [])
  else if 0xE0 ≤ first && first ≤ 0xEF then
    match rest with
    | b :: r =>
      if fitsSecond first b then
        match r with
        | c :: r' => if isTail c then (some (codePoint 0xE0 first [b, c]), r') else (none, r)
        | [] => (none, [])
      else (none, rest)
    | [] => (none, [])
  else if 0xF0 ≤ first && first ≤ 0xF4 then
    match rest with
    | b :: r =>
      if fitsSecond first b then
        match r with
        | c :: r' =>
          if isTail c then
            match r' with
            | d :: r'' =>
              if isTail d then (some (codePoint 0xF0 first [b, c, d]), r'') else (none, r')
            | [] => (none, [])
          else (none, r)
        | [] => (none, [])
      else (none, rest)
    | [] => (none, [])
  else (none, rest)

/-- A piece takes nothing but octets from the front. -/
theorem length_takePiece_le (first : UInt8) (rest : Bytes) :
    (takePiece first rest).2.length ≤ rest.length := by
  simp only [takePiece]
  (repeat' split) <;> simp only [List.length_cons, List.length_nil] <;> omega

/-- The pieces of a sequence of octets, `none` for an ill-formed one. -/
def pieces : Bytes → List (Option Char)
  | [] => []
  | first :: rest => (takePiece first rest).1 :: pieces (takePiece first rest).2
  termination_by b => b.length
  decreasing_by exact Nat.lt_succ_of_le (length_takePiece_le first rest)

/-- The text of well-formed octets. -/
def decode? (b : Bytes) : Option Text := (pieces b).mapM id

/-- The text of any octets, with U+FFFD for each ill-formed piece. -/
def decodeLenient (b : Bytes) : Text := (pieces b).map (·.getD '\uFFFD')

end RtspServer.Utf8
