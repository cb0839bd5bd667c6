/-
RtspServer/Rtp/SenderReport.lean

RTCP sender reports (RFC 3550, section 6.4.1) without report blocks: twenty-eight
octets that tie the media clock of a stream to wall clock time.

Wall clock time travels as an NTP timestamp, seconds since 1900 and a binary
fraction of a second; the seconds wrap around.
-/
import RtspServer.Binary.Word

namespace RtspServer

namespace Rtcp

/-- A moment in NTP form. -/
structure NtpTime where
  seconds : UInt32
  fraction : UInt32
  deriving DecidableEq, Repr

/-- Seconds from the start of 1900 to the start of 1970. -/
def secondsTo1970 : Nat := 2208988800

/-- The moment that lies so long after the start of 1970. -/
def NtpTime.since1970 (seconds nanos : Nat) : NtpTime :=
  ⟨UInt32.ofNat (seconds + secondsTo1970), UInt32.ofNat (nanos * UInt32.size / 1000000000)⟩

/-- The packet type of a sender report. -/
def senderReportType : UInt8 := 200

/-- What a sender says about one stream. -/
structure SenderReport where
  ssrc : UInt32
  ntp : NtpTime
  rtpTimestamp : UInt32
  packetCount : UInt32
  octetCount : UInt32
  deriving DecidableEq, Repr

/-- The type of an RTCP packet, if it looks like one: four octets, version 2, a type in use. -/
def packetType? : Bytes → Option UInt8
  | a :: type :: _ :: _ :: _ =>
    if a >>> 6 = 2 && 200 ≤ type && type ≤ 206 then some type else none
  | _ => none

namespace SenderReport

/-- The twenty-eight octets. -/
def write (r : SenderReport) : Bytes :=
  0x80 :: senderReportType :: octets16 6 ++ octets32 r.ssrc ++ octets32 r.ntp.seconds
    ++ octets32 r.ntp.fraction ++ octets32 r.rtpTimestamp ++ octets32 r.packetCount
    ++ octets32 r.octetCount

/-- One word at the front. -/
def takeWord? : Bytes → Option (UInt32 × Bytes)
  | a :: b :: c :: d :: rest => some (word32 a b c d, rest)
  | _ => none

/-- The report at the front of a packet. -/
def read? (packet : Bytes) : Option SenderReport := do
  if packetType? packet = some senderReportType then
    let (ssrc, rest) ← takeWord? (packet.drop 4)
    let (seconds, rest) ← takeWord? rest
    let (fraction, rest) ← takeWord? rest
    let (rtpTimestamp, rest) ← takeWord? rest
    let (packetCount, rest) ← takeWord? rest
    let (octetCount, _) ← takeWord? rest
    some ⟨ssrc, ⟨seconds, fraction⟩, rtpTimestamp, packetCount, octetCount⟩
  else none

@[simp] theorem length_write (r : SenderReport) : r.write.length = 28 := rfl

end SenderReport

end Rtcp

end RtspServer
