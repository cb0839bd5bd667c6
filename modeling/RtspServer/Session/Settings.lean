/-
RtspServer/Session/Settings.lean

What the owner of a server can choose.
-/
import RtspServer.Text.Basic

namespace RtspServer

/-- The choices of the owner. -/
structure Settings where
  /-- The host that session descriptions name; taken from the request if absent. -/
  publicHost : Option Text := none
  /-- The user name in the origin line of session descriptions. -/
  originUser : Text := ['-']
  /-- The session number in the origin line. -/
  originSession : Text := ['0']
  /-- The version in the origin line. -/
  originVersion : Text := ['0']
  /-- The name of the stream. -/
  streamName : Text := "Stream".toList
  /-- The first UDP port that may be used. -/
  firstPort : UInt16 := 50000
  /-- The first UDP port above those that may be used. -/
  limitPort : UInt16 := 51000
  /-- Milliseconds without a request after which a client is taken to be gone. -/
  timeout : Nat := 70000
  deriving DecidableEq, Repr

end RtspServer
