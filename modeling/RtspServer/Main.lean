/-
RtspServer/Main.lean

The command line: one control connection over standard input and output.

Everything that the client has to say is read first; then the responses are
written, and the reason why the connection ended goes to standard error.  With a
user name and a password, every request but OPTIONS has to be authorized.
-/
import RtspServer.Control.Conversation

namespace RtspServer

namespace CommandLine

/-- How the program is called. -/
def usage : String := "usage: rtsp-server [--username NAME --password WORD]"

/-- The realm that a client is asked for. -/
def realm : Text := "rtsp-engine".toList

/-- The credentials that the arguments ask for. -/
def authenticator? : List String → Except String (Option Authenticator)
  | [] => .ok none
  | ["--username", username, "--password", password] =>
    .ok (some (.basic ⟨username.toList, password.toList, realm⟩))
  | _ => .error usage

/-- Random words out of eight octets; a single connection draws one word of each width. -/
def entropyOf (octets : Bytes) : Entropy :=
  let number := octets.foldl (fun n b => n * 256 + b.toNat) 0
  { words16 := fun _ => UInt16.ofNat number
    words32 := fun _ => UInt32.ofNat number
    words64 := fun _ => UInt64.ofNat number }

/-- The peer of a connection over standard input. -/
def peer : SocketAddress := { ip := .v4 127 0 0 1, port := 0 }

/-- Everything that the client of a hub is told, and why its connection ended. -/
def conversation (h : Hub) (input : Bytes) : List Bytes × Departure :=
  let (departure, h) := h.serve peer 0 none input
  (((h.media.outlets.map (·.written)).flatten).reverse, departure)

/-- Read a stream to its end. -/
partial def readAll (input : IO.FS.Stream) (before : ByteArray) : IO ByteArray := do
  let piece ← input.read 65536
  if piece.isEmpty then return before
  readAll input (before ++ piece)

end CommandLine

end RtspServer

open RtspServer in
/-- Serve one connection. -/
def main (arguments : List String) : IO UInt32 := do
  match CommandLine.authenticator? arguments with
  | .error message =>
    (← IO.getStderr).putStrLn message
    return 2
  | .ok authenticator =>
    let seed ← IO.getRandomBytes 8
    let h : Hub := { authenticator, entropy := CommandLine.entropyOf seed.toList }
    let input ← CommandLine.readAll (← IO.getStdin) ByteArray.empty
    let (messages, departure) := CommandLine.conversation h input.toList
    let output ← IO.getStdout
    for message in messages do
      output.write ⟨message.toArray⟩
    output.flush
    (← IO.getStderr).putStrLn (String.ofList departure.reason)
    return 0
