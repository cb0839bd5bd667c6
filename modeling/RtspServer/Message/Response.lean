/-
RtspServer/Message/Response.lean

Responses (RFC 2326, section 7): a status, headers and a body.  Every response
starts with the Server header; the reason phrase is a function of the status,
and Content-Length is counted from the body when the response is written.
-/
import RtspServer.Message.Headers
import RtspServer.Text.Utf8

namespace RtspServer

/-- How the server calls itself. -/
def serverAgent : Text := "rtsp-engine/0.1".toList

/-- The phrase that goes with a status. -/
def reasonPhrase (status : Nat) : Text :=
  match status with
  | 200 => "OK".toList
  | 400 => "Bad Request".toList
  | 401 => "Unauthorized".toList
  | 404 => "Not Found".toList
  | 454 => "Session Not Found".toList
  | 455 => "Method Not Valid in This State".toList
  | 461 => "Unsupported Transport".toList
  | 500 => "Internal Server Error".toList
  | 501 => "Not Implemented".toList
  | _ => "Unknown".toList

/-- An answer to a request. -/
structure Response where
  status : Nat := 200
  headers : Headers := Headers.empty.insert "Server".toList serverAgent
  body : Bytes := []
  deriving DecidableEq, Repr

namespace Response

/-- The phrase of a response. -/
def reason (r : Response) : Text := reasonPhrase r.status

/-- Change the status, and the phrase with it. -/
def withStatus (r : Response) (status : Nat) : Response := { r with status }

/-- Set a header. -/
def withHeader (r : Response) (name value : Text) : Response :=
  { r with headers := r.headers.insert name value }

/-- Set the body. -/
def withBody (r : Response) (body : Bytes) : Response := { r with body }

/-- The status line. -/
def statusLine (r : Response) : Text :=
  "RTSP/1.0 ".toList ++ Text.decimal r.status ++ ' ' :: r.reason ++ Headers.lineEnd

/-- A response as it goes over the wire. -/
def wire (r : Response) : Bytes :=
  Utf8.encode (r.statusLine ++ r.headers.text ++ Headers.bodyHead r.body) ++ r.body

end Response

end RtspServer
