/-
RtspServer/Jpeg/Segment.lean

The head of a JPEG picture: the marker SOI, then segments up to and including
SOS.  A segment is a marker FF xx, a length that counts itself and the body, and
the body.  What follows SOS is entropy-coded scan data, which needs no walking.

`Segment.write` writes one segment, and `walk` takes all of them off the front
of a picture.
-/
import RtspServer.Binary.Word
import RtspServer.Fault

namespace RtspServer

namespace Jpeg

/-- A marker with its body. -/
structure Segment where
  marker : UInt16
  body : Bytes
  deriving DecidableEq, Repr

/-- The marker of quantization tables. -/
def quantizationMarker : UInt16 := 0xFFDB

/-- The marker before the scan data. -/
def scanMarker : UInt16 := 0xFFDA

/-- A segment as it stands in a picture. -/
def Segment.write (s : Segment) : Bytes :=
  octets16 s.marker ++ octets16 (UInt16.ofNat (s.body.length + 2)) ++ s.body

/-- The segments after SOI, up to and including SOS, and what follows them. -/
def walkSegments : Bytes → Except Fault (List Segment × Bytes)
  | m₀ :: m₁ :: s₀ :: s₁ :: rest =>
    let size := (word16 s₀ s₁).toNat
    let body := rest.take (size - 2)
    if m₀ ≠ 0xFF then .error (.invalidJpeg "expected marker".toList)
    else if size < 2 ∨ body.length < size - 2 then
      .error (.invalidJpeg "segment overruns frame".toList)
    else
      let segment : Segment := ⟨word16 m₀ m₁, body⟩
      if segment.marker = scanMarker then .ok ([segment], rest.drop (size - 2))
      else
        match walkSegments (rest.drop (size - 2)) with
        | .ok (segments, scan) => .ok (segment :: segments, scan)
        | .error fault => .error fault
  | _ => .error (.invalidJpeg "truncated before start of scan".toList)
  termination_by b => b.length
  decreasing_by simp only [List.length_drop, List.length_cons]; omega

/-- The segments of a picture and its scan data. -/
def walk : Bytes → Except Fault (List Segment × Bytes)
  | 0xFF :: 0xD8 :: a :: b :: rest => walkSegments (a :: b :: rest)
  | _ => .error (.invalidJpeg "missing SOI marker".toList)

/-! ### Size of the picture -/

/-- Does a marker open a frame header: baseline, extended or progressive? -/
def isFrameMarker (marker : UInt16) : Bool := 0xFFC0 ≤ marker && marker ≤ 0xFFC2

/-- Width and height in a frame header. -/
def Segment.dimensions? (s : Segment) : Option (UInt16 × UInt16) :=
  match s.body with
  | _ :: h₀ :: h₁ :: w₀ :: w₁ :: _ => some (word16 w₀ w₁, word16 h₀ h₁)
  | _ => none

/-- Width and height of a picture, from its first frame header. -/
def dimensions? (picture : Bytes) : Option (UInt16 × UInt16) :=
  match walk picture with
  | .ok (segments, _) => (segments.find? fun s => isFrameMarker s.marker).bind (·.dimensions?)
  | .error _ => none

end Jpeg

end RtspServer
