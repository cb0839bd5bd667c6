/-
RtspServer/Jpeg/Scan.lean

What packets carry of a JPEG picture: at most two quantization tables and the
scan data without the closing marker EOI.  A receiver makes up the rest of the
head from the packet headers.
-/
import RtspServer.Jpeg.Segment

namespace RtspServer

namespace Jpeg

/-- A quantization table: its selector octet and its coefficients. -/
structure QuantTable where
  selector : UInt8
  coefficients : Bytes
  deriving DecidableEq, Repr

/-- Coefficients of sixteen bits instead of eight. -/
def QuantTable.isWide (t : QuantTable) : Bool := t.selector >>> 4 != 0

/-- How many octets of coefficients follow a selector. -/
def coefficientSize (selector : UInt8) : Nat := if selector >>> 4 = 0 then 64 else 128

/-- The parts of a picture that packets carry. -/
structure Scan where
  tables : List QuantTable
  data : Bytes
  deriving DecidableEq, Repr

/-- The tables in the body of one segment. -/
def readTables : Bytes → Except Fault (List QuantTable)
  | [] => .ok []
  | selector :: rest =>
    let coefficients := rest.take (coefficientSize selector)
    if coefficients.length < coefficientSize selector then
      .error (.invalidJpeg "truncated quantization table".toList)
    else
      match readTables (rest.drop (coefficientSize selector)) with
      | .ok tables => .ok (⟨selector, coefficients⟩ :: tables)
      | .error fault => .error fault
  termination_by b => b.length
  decreasing_by simp only [List.length_drop, List.length_cons]; omega

/-- Add the tables of one more segment; two is the most there may be. -/
def addTables (tables : List QuantTable) (s : Segment) : Except Fault (List QuantTable) :=
  match readTables s.body with
  | .ok more =>
    if 2 < (tables ++ more).length then .error (.tooManyTables (tables ++ more).length)
    else .ok (tables ++ more)
  | .error fault => .error fault

/-- Leave out one EOI marker at the end. -/
def dropEnd (data : Bytes) : Bytes :=
  if data.drop (data.length - 2) = [0xFF, 0xD9] then data.take (data.length - 2) else data

/-- The parts of a picture that packets carry. -/
def Scan.ofPicture (picture : Bytes) : Except Fault Scan := do
  let (segments, rest) ← walk picture
  let tables ← (segments.filter fun s => s.marker == quantizationMarker).foldlM addTables []
  return ⟨tables, dropEnd rest⟩

end Jpeg

end RtspServer
