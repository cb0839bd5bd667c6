/-
RtspServer/Message/Request.lean

Requests (RFC 2326, section 6): a request line of verb, target and version,
headers and a body.

`Request.parse` reads a request from text.  It is lenient: missing tokens of the
request line get their usual values, an unknown verb is kept, and lines may end
with LF or CRLF.  Only an empty request line and a header line without a colon
are refused.  `Request.salvage` makes a request even of refused text, so that
the sender can be answered; it keeps the CSeq, if it finds one anywhere.

The head ends at the first blank line, which is looked for twice: as the text
CRLF CRLF, and only if there is none as LF LF.
-/
import RtspServer.Fault
import RtspServer.Message.Method
import RtspServer.Message.Response
import RtspServer.Text.Line
import RtspServer.Transport.Offer

namespace RtspServer

/-- The version this server speaks. -/
def protocolVersion : Text := "RTSP/1.0".toList

/-- A question from a client. -/
structure Request where
  method : Method
  /-- The verb as it was sent. -/
  verb : Text := method.name
  /-- The address the request is about, `*` for the server itself. -/
  target : Text
  version : Text := protocolVersion
  headers : Headers := Headers.empty
  body : Bytes := []
  deriving DecidableEq, Repr

namespace Request

/-! ### Building -/

/-- Set a header. -/
def withHeader (r : Request) (name value : Text) : Request :=
  { r with headers := r.headers.insert name value }

/-- Set the body. -/
def withBody (r : Request) (body : Bytes) : Request := { r with body }

/-! ### Looking things up -/

/-- The value of a header. -/
def header? (r : Request) (name : String) : Option Text := r.headers.get? name.toList

/-- The number that pairs a response with its request. -/
def cseq? (r : Request) : Option Text := r.header? "CSeq"

/-- The session a request names: its Session header before any semicolon, if not blank. -/
def sessionId? (r : Request) : Option Text :=
  ((r.header? "Session").map fun value =>
    Text.trim ((Text.splitOn ';' value).headD value)).filter (!·.isEmpty)

/-- The transports that a SETUP request offers; other requests offer none. -/
def offers? (r : Request) : Option (List TransportOffer) :=
  match r.method with
  | .setup => some (((r.header? "Transport").map TransportOffer.readOffers).getD [])
  | _ => none

/-- The answer 200, with the CSeq and the Session of the request. -/
def respond (r : Request) : Response :=
  let withCSeq := match r.cseq? with
    | some value => ({} : Response).withHeader "CSeq".toList value
    | none => {}
  match r.header? "Session" with
  | some value => withCSeq.withHeader "Session".toList value
  | none => withCSeq

/-! ### Writing -/

/-- The request line. -/
def requestLine (r : Request) : Text :=
  r.verb ++ ' ' :: r.target ++ ' ' :: r.version ++ Headers.lineEnd

/-- A request as it goes over the wire. -/
def wire (r : Request) : Bytes :=
  Utf8.encode (r.requestLine ++ r.headers.text ++ Headers.bodyHead r.body) ++ r.body

/-! ### Reading -/

/-- The headers on lines up to the first empty one. -/
def readHeaders (h : Headers) : List Text → Except Fault Headers
  | [] => .ok h
  | line :: rest =>
    if line.isEmpty then .ok h
    else match Text.cut ':' line with
      | some (name, value) => readHeaders (h.insert (Text.trim name) (Text.trim value)) rest
      | none => .error (.malformed .invalidHeader)

/-- A request from its request line and its header lines. -/
def ofLines (requestLine : Text) (headerLines : List Text) : Except Fault Request := do
  let headers ← readHeaders Headers.empty headerLines
  let tokens := Text.words requestLine
  let verb := tokens.getD 0 []
  return {
    method := Method.ofVerb verb
    verb := verb
    target := tokens.getD 1 ['*']
    version := tokens.getD 2 protocolVersion
    headers := headers }

/-- The head and the body of a message, without the blank line between them. -/
def splitHead (raw : Text) : Text × Text :=
  match Text.cutAt ['\r', '\n', '\r', '\n'] raw with
  | some parts => parts
  | none => (Text.cutAt ['\n', '\n'] raw).getD (raw, [])

/-- A request from its whole text. -/
def parse (raw : Text) : Except Fault Request :=
  let (head, body) := splitHead raw
  match Text.lines head with
  | [] => .error (.malformed .emptyRequest)
  | first :: rest =>
    if Text.isBlankLine first then .error (.malformed .emptyRequest)
    else (ofLines first rest).map (·.withBody (Utf8.encode body))

/-- The value on a line that says CSeq before its first colon. -/
def cseqOfLine? (line : Text) : Option Text := do
  let (name, value) ← Text.cut ':' line
  if Text.eqFold (Text.trim name) "CSeq".toList then some (Text.trim value) else none

/-- A request that stands for text which cannot be parsed. -/
def salvage (raw : Text) : Request :=
  let bare : Request := { method := .unknown, verb := Text.firstWord raw, target := ['*'] }
  match (Text.lines raw).findSome? cseqOfLine? with
  | some value => bare.withHeader "CSeq".toList value
  | none => bare

/-- The request a text stands for, parsed or salvaged. -/
def ofText (raw : Text) : Request :=
  match parse raw with
  | .ok r => r
  | .error _ => salvage raw

end Request

end RtspServer
