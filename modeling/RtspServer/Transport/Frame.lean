/-
RtspServer/Transport/Frame.lean

`$` frames: media packets between the messages of a control connection
(RFC 2326, section 10.12).

    '$' | channel | length, two octets | that many octets

`Frame.read` takes one frame off the front of a stream and gives back the rest,
so frames written one after the other are read one after the other.
-/
import RtspServer.Binary.Word
import RtspServer.Fault

namespace RtspServer

/-- A media packet on a channel of a control connection. -/
structure Frame where
  channel : UInt8
  payload : Bytes
  deriving DecidableEq, Repr

namespace Frame

/-- The octet that opens a frame. -/
def opening : UInt8 := 0x24

/-- The octets of a frame. The length field has sixteen bits. -/
def write (f : Frame) : Except Fault Bytes :=
  if f.payload.length < UInt16.size then
    .ok (opening :: f.channel :: octets16 (UInt16.ofNat f.payload.length) ++ f.payload)
  else .error (.frameTooLarge f.payload.length)

/-- Why no frame could be read. -/
inductive ReadFault where
  /-- The stream ended inside the frame. -/
  | endOfStream
  /-- The first octet opens no frame. -/
  | noMarker
  deriving DecidableEq, Repr

/-- The wording of a read fault. -/
def ReadFault.message : ReadFault → Text
  | .endOfStream => "failed to fill whole buffer".toList
  | .noMarker => "interleaved frame without '$' marker".toList

/-- Take one frame off the front of a stream. -/
def read : Bytes → Except ReadFault (Frame × Bytes)
  | first :: channel :: hi :: lo :: rest =>
    if first ≠ opening then .error .noMarker
    else
      let size := (word16 hi lo).toNat
      let payload := rest.take size
      if payload.length = size then .ok (⟨channel, payload⟩, rest.drop size)
      else .error .endOfStream
  | _ => .error .endOfStream

/-- A frame takes at least its first four octets. -/
theorem length_rest_lt {input rest : Bytes} {f : Frame} (h : read input = .ok (f, rest)) :
    rest.length < input.length := by
  unfold read at h
  split at h
  · split at h
    · exact absurd h (by simp)
    · simp only at h
      split at h
      · simp only [Except.ok.injEq, Prod.mk.injEq] at h
        obtain ⟨-, rfl⟩ := h
        simp only [List.length_drop, List.length_cons]
        omega
      · exact absurd h (by simp)
  · exact absurd h (by simp)

end Frame

end RtspServer
