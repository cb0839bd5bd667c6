/-
RtspServer/Control/Description.lean

Session descriptions (SDP, RFC 4566): ten lines that tell a client what stream
there is and how to set it up.
-/
import RtspServer.Jpeg.Packetizer
import RtspServer.Session.Settings

namespace RtspServer

/-- The lines of the description of the stream on a host. -/
def descriptionLines (s : Settings) (host : Text) : List Text :=
  ["v=0".toList,
    "o=".toList ++ s.originUser ++ ' ' :: s.originSession ++ ' ' :: s.originVersion
      ++ " IN IP4 ".toList ++ host,
    "s=".toList ++ s.streamName,
    "c=IN IP4 ".toList ++ host,
    "t=0 0".toList,
    "a=tool:rtsp-engine".toList,
    "a=sendonly".toList,
    "m=video 0 RTP/AVP ".toList ++ Text.decimal Jpeg.payloadType.toNat] ++ Jpeg.attributes

/-- The description of the stream on a host. -/
def description (s : Settings) (host : Text) : Text :=
  (descriptionLines s host).flatMap (· ++ ['\r', '\n'])

end RtspServer
