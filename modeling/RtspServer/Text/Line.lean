/-
RtspServer/Text/Line.lean

Cutting text: at the first separator (`Text.cut`), at a fixed text
(`Text.cutAt`), and into lines (`Text.lines`).

A line ends with LF, and a CR just before that LF belongs to the line end too.
Text after the last LF is a line of its own when it is not empty; a CR at its
end stays, since no LF follows it.
-/
import RtspServer.Text.Blank

namespace RtspServer.Text

/-- What stands before and after the first `c`. -/
def cut (c : Char) (t : Text) : Option (Text × Text) :=
  match t.dropWhile (· != c) with
  | [] => none
  | _ :: rest => some (t.takeWhile (· != c), rest)

/-- What stands after the last `c`, or the whole text if there is none. -/
def afterLast (c : Char) (t : Text) : Text := (t.reverse.takeWhile (· != c)).reverse

/-- The place of the first occurrence of `pattern`, counted from `start`. -/
def findFrom (pattern : Text) : Nat → Text → Option Nat
  | start, [] => if pattern.isEmpty then some start else none
  | start, c :: t =>
    if pattern.isPrefixOf (c :: t) then some start else findFrom pattern (start + 1) t

/-- What stands before and after the first occurrence of `pattern`. -/
def cutAt (pattern t : Text) : Option (Text × Text) :=
  (findFrom pattern 0 t).map fun n => (t.take n, t.drop (n + pattern.length))

/-- Without `lead` at its front, if it starts with it. -/
def dropLead (lead t : Text) : Option Text :=
  if lead.isPrefixOf t then some (t.drop lead.length) else none

/-- Without one CR at its end, if it has one. -/
def dropReturn (t : Text) : Text :=
  if t.getLast? = some '\r' then t.dropLast else t

/-- The lines of a text, without their line ends. -/
def lines (t : Text) : List Text :=
  let pieces := t.splitOn '\n'
  pieces.dropLast.map dropReturn ++ (pieces.getLast?.toList.filter (!·.isEmpty))

/-! ### Examples of the rules -/

example : lines "a\r\nb\n\nc\r".toList = ["a".toList, "b".toList, [], "c\r".toList] := by decide
example : lines [] = [] := by decide
example : cut ':' "a:b:c".toList = some ("a".toList, "b:c".toList) := by decide
example : cutAt "\n\n".toList "a\n\n\nb".toList = some ("a".toList, "\nb".toList) := by decide

end RtspServer.Text
