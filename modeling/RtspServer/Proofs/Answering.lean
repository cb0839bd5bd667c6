/-
RtspServer/Proofs/Answering.lean

What answering a request can do to a hub, said once.  The peer is noted, and
then, as the verb may be, transports are made and one of them is bound, or a
session starts, pauses or is torn down (`Hub.dispatch_cases`).  Whatever these
steps preserve is preserved by every answer (`Hub.Answering.answer`).
-/
import RtspServer.Control.Answer

namespace RtspServer

/-! ### The status of an answer -/

@[simp] theorem Response.status_withHeader (r : Response) (name value : Text) :
    (r.withHeader name value).status = r.status := rfl

@[simp] theorem Response.status_withBody (r : Response) (body : Bytes) :
    (r.withBody body).status = r.status := rfl

@[simp] theorem Response.status_withStatus (r : Response) (status : Nat) :
    (r.withStatus status).status = status := rfl

@[simp] theorem Request.status_respond (r : Request) : r.respond.status = 200 := by
  unfold Request.respond
  rcases r.header? "Session" with - | session <;> rcases r.cseq? with - | cseq <;> rfl

namespace Hub

/-- `P` is preserved by every step of answering a client. -/
structure Answering (c : Client) (P : Hub → Prop) : Prop where
  touch : ∀ h now, P h → P (h.touch c.peer now)
  opened : ∀ h offer id reply m, P h → h.openTransport? c offer = some (id, reply, m) →
    P { h with media := m }
  setUp : ∀ h transport, P h → P (h.setUp c.conn transport).2
  play : ∀ h id, P h → P (h.play id).2
  pause : ∀ h id, P h → P (h.pause id).2
  teardown : ∀ h id, P h → P (h.teardown c.conn id).2

namespace Answering

variable {c : Client} {P : Hub → Prop}

theorem answerSetUp (hP : Answering c P) {h : Hub} (hp : P h) (r : Request)
    (offers : List TransportOffer) : P (h.answerSetUp c r offers).2 := by
  induction offers with
  | nil => exact hp
  | cons offer rest ih =>
    unfold Hub.answerSetUp
    split
    · exact ih
    · next transport reply m ho =>
      have hset := hP.setUp _ transport (hP.opened h offer transport reply m hp ho)
      split <;> next e =>
        rw [e] at hset
        exact hset

theorem answerPlay (hP : Answering c P) {h : Hub} (hp : P h) (r : Request) :
    P (h.answerPlay r).2 := by
  unfold Hub.answerPlay
  split
  · exact hp
  · next id _ =>
    have hplay := hP.play h id hp
    split <;> next e =>
      rw [e] at hplay
      exact hplay

theorem answerPause (hP : Answering c P) {h : Hub} (hp : P h) (r : Request) :
    P (h.answerPause r).2 := by
  unfold Hub.answerPause
  split
  · exact hp
  · next id _ =>
    have hpause := hP.pause h id hp
    split <;> next e =>
      rw [e] at hpause
      exact hpause

theorem answerTeardown (hP : Answering c P) {h : Hub} (hp : P h) (r : Request) :
    P (h.answerTeardown c r).2.2 := by
  unfold Hub.answerTeardown
  split
  · exact hp
  · next id _ => exact hP.teardown h id hp

theorem dispatch (hP : Answering c P) {h : Hub} (hp : P h) (r : Request) :
    P (h.dispatch c r).2.2 := by
  unfold Hub.dispatch
  split
  · exact hp
  · exact hp
  · exact hP.answerSetUp hp r _
  · exact hP.answerPlay hp r
  · exact hP.answerPause hp r
  · exact hP.answerTeardown hp r
  all_goals exact hp

/-- What every step preserves, the whole answer preserves. -/
theorem answer (hP : Answering c P) {h : Hub} (hp : P h) (r : Request) (now : Nat) :
    P (h.answer c r now).2.2 := by
  have htouch := hP.touch h now hp
  simp only [Hub.answer]
  split
  · exact hP.dispatch htouch r
  · exact htouch

end Answering

/-! ### One verb at a time -/

/-- What the verb of a request that may pass does, and how it is answered. -/
inductive Dispatched (h : Hub) (c : Client) (r : Request) (response : Response) : Hub → Prop
  /-- Nothing. -/
  | idle (hmethod : r.method ≠ .play) : Dispatched h c r response h
  /-- A transport is made for an offer, and bound if that can be done. -/
  | bound {offer reply : TransportOffer} {transport : TransportId} {m : Media}
      (hmethod : r.method = .setup) (ho : h.openTransport? c offer = some (transport, reply, m)) :
      Dispatched h c r response ({ h with media := m }.setUp c.conn transport).2
  | played {id : Text} {number : UInt16} (hmethod : r.method = .play)
      (hid : r.sessionId? = some id) (hplay : (h.play id).1 = .ok number)
      (hstatus : response.status = 200) : Dispatched h c r response (h.play id).2
  | unplayed (hmethod : r.method = .play)
      (hplay : ∀ id, r.sessionId? = some id → (h.play id).1.isOk = false)
      (hstatus : response.status ≠ 200) : Dispatched h c r response h
  | paused {id : Text} (hmethod : r.method = .pause) (hid : r.sessionId? = some id) :
      Dispatched h c r response (h.pause id).2
  | tornDown {id : Text} (hmethod : r.method = .teardown) (hid : r.sessionId? = some id) :
      Dispatched h c r response (h.teardown c.conn id).2

/-- The first offer that can be served is bound, if there is one. -/
theorem answerSetUp_cases (h : Hub) (c : Client) (r : Request) (offers : List TransportOffer) :
    (h.answerSetUp c r offers).2 = h ∨ ∃ offer reply transport m,
      h.openTransport? c offer = some (transport, reply, m) ∧
        (h.answerSetUp c r offers).2 = ({ h with media := m }.setUp c.conn transport).2 := by
  induction offers with
  | nil => exact Or.inl rfl
  | cons offer rest ih =>
    unfold answerSetUp
    split
    · exact ih
    · next transport reply m ho =>
      refine Or.inr ⟨offer, reply, transport, m, ho, ?_⟩
      split <;> next e => exact (congrArg Prod.snd e).symm

/-- PLAY fails for a session that is not there or has no transport, and then does nothing; or it
finds the session. -/
theorem play_cases (h : Hub) (id : Text) :
    (∃ fault, h.play id = (.error fault, h)) ∨
      ∃ s, h.session? id = some s ∧ s.stream.transport ≠ none ∧
        h.play id = (.ok s.stream.sequence, h.update s.conn fun s =>
          { s with phase := .playing, stream := { s.stream with reportDue := true } }) := by
  unfold play
  split
  · exact Or.inl ⟨_, rfl⟩
  · next s hs =>
    split
    · exact Or.inl ⟨_, rfl⟩
    · next hsome => exact Or.inr ⟨s, hs, by simpa using hsome, rfl⟩

/-- Every request that may pass is dispatched to its verb. -/
theorem dispatch_cases (h : Hub) (c : Client) (r : Request) :
    Dispatched h c r (h.dispatch c r).1 (h.dispatch c r).2.2 := by
  unfold dispatch
  split
  case h_1 hm | h_2 hm => exact .idle (by simp [hm])
  case h_3 hm =>
    rcases h.answerSetUp_cases c r (r.offers?.getD []) with e | ⟨_, _, _, _, ho, e⟩
    · exact e.symm ▸ .idle (by simp [hm])
    · exact e.symm ▸ .bound hm ho
  case h_4 hm =>
    show Dispatched h c r (h.answerPlay r).1 (h.answerPlay r).2
    unfold answerPlay
    split
    · next hid => exact .unplayed hm (fun id h => nomatch hid.symm.trans h) (by simp)
    · next id hid =>
      have hsame : ∀ {fault h'}, h.play id = (.error fault, h') → h' = h := by
        intro fault h' e
        rcases h.play_cases id with ⟨_, e'⟩ | ⟨_, _, _, e'⟩
        · exact congrArg Prod.snd (e.symm.trans e')
        · exact absurd (congrArg Prod.fst (e.symm.trans e')) nofun
      have hfault : ∀ {fault h'}, h.play id = (.error fault, h') → ∀ id', r.sessionId? = some id' →
          (h.play id').1.isOk = false := by
        intro fault h' e id' hid'
        obtain rfl := Option.some.inj (hid.symm.trans hid')
        rw [e]
        rfl
      split
      · next h' e =>
        obtain rfl : (h.play id).2 = h' := congrArg Prod.snd e
        exact .played hm hid (congrArg Prod.fst e) (by simp)
      · next e => exact (hsame e).symm ▸ .unplayed hm (hfault e) (by simp)
      · next e => exact (hsame e).symm ▸ .unplayed hm (hfault e) (by simp)
  case h_5 hm =>
    generalize (h.answerPause r).1 = response
    show Dispatched h c r response (h.answerPause r).2
    unfold answerPause
    split
    · exact .idle (by simp [hm])
    · next id hid =>
      split <;> next e => exact (congrArg Prod.snd e) ▸ .paused hm hid
  case h_6 hm =>
    unfold answerTeardown
    split
    · exact .idle (by simp [hm])
    · next id hid => exact .tornDown hm hid
  all_goals next hm => exact .idle (by simp [hm])

theorem answer_of_passed {h : Hub} {r : Request} (hpass : h.isAuthorized r = true) (c : Client)
    (now : Nat) : h.answer c r now = (h.touch c.peer now).dispatch c r :=
  if_pos hpass

theorem answer_of_refused {h : Hub} {r : Request} (hstop : ¬h.isAuthorized r = true) (c : Client)
    (now : Nat) : h.answer c r now = ((h.touch c.peer now).reject r,
      { c with closing := c.closing || (r.header? "Authorization").isSome }, h.touch c.peer now) :=
  if_neg hstop

/-- Answering changes nothing of a client but whether it is to be closed. -/
theorem client_answer (h : Hub) (c : Client) (r : Request) (now : Nat) :
    (h.answer c r now).2.1.conn = c.conn ∧ (h.answer c r now).2.1.outlet = c.outlet := by
  simp only [answer]
  split
  · unfold dispatch
    split
    · exact ⟨rfl, rfl⟩
    · exact ⟨rfl, rfl⟩
    · exact ⟨rfl, rfl⟩
    · exact ⟨rfl, rfl⟩
    · exact ⟨rfl, rfl⟩
    · unfold answerTeardown
      split <;> exact ⟨rfl, rfl⟩
    all_goals exact ⟨rfl, rfl⟩
  · exact ⟨rfl, rfl⟩

end Hub

end RtspServer
