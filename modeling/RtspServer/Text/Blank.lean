/-
RtspServer/Text/Blank.lean

Blanks: the characters with the Unicode property White_Space.  Protocol text is
lenient about them, so they are cut from both ends of a name or value
(`Text.trim`) and separate the tokens of a request line (`Text.words`).
-/
import RtspServer.Text.Basic

namespace RtspServer

/-- The characters with the Unicode property White_Space. -/
def isBlank (c : Char) : Bool :=
  let n := c.toNat
  (9 ≤ n && n ≤ 13) || n == 0x20 || n == 0x85 || n == 0xA0 || n == 0x1680 ||
    (0x2000 ≤ n && n ≤ 0x200A) || n == 0x2028 || n == 0x2029 || n == 0x202F ||
    n == 0x205F || n == 0x3000

namespace Text

/-- Cut the blanks off the front. -/
def trimStart (t : Text) : Text := t.dropWhile isBlank

/-- Cut the blanks off the end. -/
def trimEnd (t : Text) : Text := (t.reverse.dropWhile isBlank).reverse

/-- Cut the blanks off both ends. -/
def trim (t : Text) : Text := t.trimStart.trimEnd

/-- Nothing but blanks. -/
def isBlankLine (t : Text) : Bool := t.all isBlank

/-- The pieces between the characters that satisfy `p`, empty pieces included. -/
def splitBy (p : Char → Bool) (t : Text) : List Text :=
  t.foldr (fun c pieces =>
    if p c then [] :: pieces
    else match pieces with
      | [] => [[c]]
      | piece :: rest => (c :: piece) :: rest) [[]]

/-- The pieces between the separators `c`, empty pieces included. -/
def splitOn (c : Char) (t : Text) : List Text := t.splitBy (· == c)

/-- The nonempty pieces between blanks. -/
def words (t : Text) : List Text := (t.splitBy isBlank).filter (!·.isEmpty)

/-- The first piece between blanks, or nothing if there are only blanks. -/
def firstWord (t : Text) : Text := t.trimStart.takeWhile (!isBlank ·)

/-! ### Pieces -/

@[simp] theorem splitBy_nil (p : Char → Bool) : splitBy p [] = [[]] := rfl

theorem splitBy_ne_nil (p : Char → Bool) (t : Text) : splitBy p t ≠ [] := by
  cases t with
  | nil => simp
  | cons c t =>
    simp only [splitBy, List.foldr_cons]
    split
    · simp
    · split <;> simp

theorem splitBy_cons_of_pos {p : Char → Bool} {c : Char} (h : p c = true) (t : Text) :
    splitBy p (c :: t) = [] :: splitBy p t := by
  simp [splitBy, h]

theorem splitBy_cons_of_neg {p : Char → Bool} {c : Char} (h : p c = false) {t piece : Text}
    {rest : List Text} (ht : splitBy p t = piece :: rest) :
    splitBy p (c :: t) = (c :: piece) :: rest := by
  simp only [splitBy, List.foldr_cons, h] at ht ⊢
  rw [ht]
  rfl

end Text

end RtspServer
