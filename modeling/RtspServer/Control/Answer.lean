/-
RtspServer/Control/Answer.lean

Answering requests.  Every request refreshes the connections of its peer, then
has to be authorized, unless it is OPTIONS, and is then answered by its verb.

Every answer starts as `Request.respond`, so it carries the CSeq and the Session
of its request.  A client with wrong credentials, and one whose own session it
has torn down, is closed once the answer is written.
-/
import RtspServer.Control.Description
import RtspServer.Session.Playback

namespace RtspServer

/-- The server's end of a control connection. It may outlive the entry in the hub. -/
structure Client where
  conn : ConnId
  peer : SocketAddress
  outlet : OutletId
  /-- The connection is to be closed after the next response. -/
  closing : Bool := false
  deriving DecidableEq, Repr

/-- The client of an entry. -/
def Session.client (s : Session) : Client := { conn := s.conn, peer := s.peer, outlet := s.outlet }

/-- The verbs that have an effect. -/
def publicMethods : Text :=
  "OPTIONS, DESCRIBE, SETUP, PLAY, PAUSE, TEARDOWN, GET_PARAMETER".toList

/-- The host in an address, between the user information and the port, if it is not blank. -/
def hostOf? (target : Text) : Option Text := do
  let rest ← (Text.dropLead "rtsp://".toList target).or (Text.dropLead "rtsps://".toList target)
  let authority := rest.takeWhile (· != '/')
  let host := Text.trim ((Text.afterLast '@' authority).takeWhile (· != ':'))
  if host.isEmpty then none else some host

namespace Hub

/-- The host that a description names: the one of the settings, of the request, or of the peer. -/
def hostFor (h : Hub) (c : Client) (target : Text) : Text :=
  match h.settings.publicHost with
  | some host => host
  | none => (hostOf? target).getD c.peer.ip.text

/-- The answer to DESCRIBE. -/
def describe (h : Hub) (c : Client) (r : Request) : Response :=
  ((r.respond.withHeader "Content-Type".toList "application/sdp".toList).withHeader
      "Content-Base".toList r.target).withBody
    (Utf8.encode (description h.settings (h.hostFor c r.target)))

/-- A new transport for an offer and what to answer, if the offer is one that can be served. -/
def openTransport? (h : Hub) (c : Client) (offer : TransportOffer) :
    Option (TransportId × TransportOffer × Media) :=
  if offer.multicast then none
  else match offer.lower with
    | .tcp =>
      let channels := offer.interleaved.getD ⟨0, 1⟩
      let (id, media) := h.media.openInterleaved c.outlet channels
      some (id, { lower := .tcp, interleaved := some channels }, media)
    | .udp =>
      match offer.clientPort with
      | none => none
      | some clientPorts =>
        match h.media.openDatagrams h.settings.firstPort h.settings.limitPort c.peer.ip
            clientPorts with
        | .error _ => none
        | .ok (ports, id, media) =>
          some (id,
            { lower := .udp, clientPort := some clientPorts, serverPort := some ports }, media)

/-- The value of a Session header: the id and the timeout in seconds. -/
def sessionHeader (h : Hub) (id : Text) : Text :=
  id ++ ";timeout=".toList ++ Text.decimal (h.settings.timeout / 1000)

/-- The answer to SETUP: the first offer that can be served is bound. -/
def answerSetUp (h : Hub) (c : Client) (r : Request) : List TransportOffer → Response × Hub
  | [] => (r.respond.withStatus 461, h)
  | offer :: rest =>
    match h.openTransport? c offer with
    | none => answerSetUp h c r rest
    | some (transport, reply, media) =>
      match { h with media }.setUp c.conn transport with
      | (.error _, h) => (r.respond.withStatus 461, h)
      | (.ok setup, h) =>
        ((r.respond.withHeader "Transport".toList
            { reply with ssrc := some setup.ssrc }.text).withHeader
            "Session".toList (h.sessionHeader setup.id), h)

/-- The answer to PLAY. -/
def answerPlay (h : Hub) (r : Request) : Response × Hub :=
  match r.sessionId? with
  | none => (r.respond.withStatus 454, h)
  | some id =>
    match h.play id with
    | (.ok sequence, h) =>
      ((r.respond.withHeader "Range".toList "npt=0-".toList).withHeader "RTP-Info".toList
        ("url=".toList ++ r.target ++ ";seq=".toList ++ Text.decimal sequence.toNat), h)
    | (.error (.sessionNotFound _), h) => (r.respond.withStatus 454, h)
    | (.error _, h) => (r.respond.withStatus 455, h)

/-- The answer to PAUSE. -/
def answerPause (h : Hub) (r : Request) : Response × Hub :=
  match r.sessionId? with
  | none => (r.respond.withStatus 454, h)
  | some id =>
    match h.pause id with
    | (.ok _, h) => (r.respond, h)
    | (.error _, h) => (r.respond.withStatus 454, h)

/-- The answer to TEARDOWN. It succeeds even if there is nothing to tear down. -/
def answerTeardown (h : Hub) (c : Client) (r : Request) : Response × Client × Hub :=
  match r.sessionId? with
  | none => (r.respond, c, h)
  | some id =>
    let (gone, h) := h.teardown c.conn id
    (r.respond, { c with closing := c.closing || gone.contains c.conn }, h)

/-- The answer to a request that is authorized. -/
def dispatch (h : Hub) (c : Client) (r : Request) : Response × Client × Hub :=
  match r.method with
  | .options => (r.respond.withHeader "Public".toList publicMethods, c, h)
  | .describe => (h.describe c r, c, h)
  | .setup =>
    let (response, h) := h.answerSetUp c r (r.offers?.getD [])
    (response, c, h)
  | .play =>
    let (response, h) := h.answerPlay r
    (response, c, h)
  | .pause =>
    let (response, h) := h.answerPause r
    (response, c, h)
  | .teardown => h.answerTeardown c r
  | .getParameter => (r.respond, c, h)
  | .announce | .record | .setParameter | .redirect | .unknown =>
    (r.respond.withStatus 501, c, h)

/-- May a request pass? -/
def isAuthorized (h : Hub) (r : Request) : Bool :=
  match h.authenticator with
  | none => true
  | some a => r.method == .options || a.validate r

/-- The answer to a request that may not pass: the challenge. -/
def reject (h : Hub) (r : Request) : Response :=
  let challenge := (h.authenticator.map (·.challenge)).getD []
  (r.respond.withStatus 401).withHeader "WWW-Authenticate".toList challenge

/-- Answer a request. -/
def answer (h : Hub) (c : Client) (r : Request) (now : Nat) : Response × Client × Hub :=
  let h := h.touch c.peer now
  if h.isAuthorized r then h.dispatch c r
  else
    (h.reject r, { c with closing := c.closing || (r.header? "Authorization").isSome }, h)

end Hub

end RtspServer
