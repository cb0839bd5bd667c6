/-
RtspServer/Control/Conversation.lean

The conversation on a control connection: message after message is taken off the
stream, frames go to the transport of the session, requests are answered in
order, until the stream or the connection ends.

`Hub.exchange` deals with one message.  `Hub.converse` says what a whole stream
of octets does to the hub and why the connection ended.  Responses go to the
outlet of the client, where frames to the same client go too, each as one write.

A server that shuts down is noticed between two messages only, so a connection
that is waiting for a message then still deals with that one.
-/
import RtspServer.Control.Answer
import RtspServer.Control.Message
import RtspServer.Session.Upkeep

namespace RtspServer

namespace Hub

/-- Answer one request and write the response. -/
def respond (h : Hub) (c : Client) (r : Request) (now : Nat) : Except Departure Client × Hub :=
  let (response, c, h) := h.answer c r now
  match h.media.writeOutlet c.outlet response.wire with
  | .error _ => (.error .writeError, h)
  | .ok media => (if c.closing then .error .afterResponse else .ok c, { h with media })

/-- Deal with the first message of a stream. Gives the client and the rest of the stream, or the
reason why the connection ends. -/
def exchange (h : Hub) (c : Client) (now : Nat) (input : Bytes) :
    Except Departure (Client × Bytes) × Hub :=
  if input.isEmpty then (.error .closedByClient, h)
  else if input.head? = some Frame.opening then
    match Frame.read input with
    | .error _ => (.error .readError, h)
    | .ok (frame, rest) => (.ok (c, rest), (h.deliver c.conn frame).2)
  else
    match Control.readMessage input with
    | .error departure => (.error departure, h)
    | .ok (none, rest) => (.ok (c, rest), h)
    | .ok (some raw, rest) =>
      let (outcome, h) := h.respond c (Request.ofText raw) now
      (outcome.map fun c => (c, rest), h)

/-- A message takes at least one octet off the stream. -/
theorem length_rest_lt_of_exchange {h after : Hub} {c client : Client} {now : Nat}
    {input rest : Bytes} (he : h.exchange c now input = (.ok (client, rest), after)) :
    rest.length < input.length := by
  unfold exchange at he
  split at he
  · simp at he
  · split at he
    · split at he
      · simp at he
      · next frame rest' hread =>
        simp only [Prod.mk.injEq, Except.ok.injEq] at he
        rw [← he.1.2]
        exact Frame.length_rest_lt hread
    · split at he
      · simp at he
      · next rest' hread =>
        simp only [Prod.mk.injEq, Except.ok.injEq] at he
        rw [← he.1.2]
        exact Control.length_rest_lt hread
      · next raw rest' hread =>
        rcases hresp : h.respond c (Request.ofText raw) now with ⟨outcome, after'⟩
        cases outcome with
        | error departure => simp [hresp, Except.map] at he
        | ok client' =>
          simp only [hresp, Except.map, Prod.mk.injEq, Except.ok.injEq] at he
          rw [← he.1.2]
          exact Control.length_rest_lt hread

/-- Take messages off the stream of a client. Gives the reason for the end. The server shuts down
after `left` messages; if `left` is absent it goes on. -/
def converse (h : Hub) (c : Client) (now : Nat) (left : Option Nat) (input : Bytes) :
    Departure × Hub :=
  if left = some 0 then (.shuttingDown, h)
  else
    match _he : h.exchange c now input with
    | (.error departure, h) => (departure, h)
    | (.ok (c, rest), h) => converse h c now (left.map (· - 1)) rest
  termination_by input.length
  decreasing_by exact length_rest_lt_of_exchange _he

/-- A whole connection, from the moment it is accepted until nothing is left of it. -/
def serve (h : Hub) (peer : SocketAddress) (now : Nat) (left : Option Nat) (input : Bytes) :
    Departure × Hub :=
  let (s, h) := h.register peer {} now
  let (departure, h) := h.converse s.client now left input
  (departure, h.disconnect s.conn)

end Hub

end RtspServer
