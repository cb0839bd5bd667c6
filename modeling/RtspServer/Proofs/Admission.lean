/-
RtspServer/Proofs/Admission.lean

Who is let in.  Where credentials are asked for, a request that is not OPTIONS
and does not validate is barred.  Its answer is made of its CSeq, its Session and
the challenge (`rejection`), so it tells nothing of what was wrong with the
credentials.  All it does to the hub is that its peer has been seen
(`Hub.answer_of_bars`).

A connection that only sends such requests, OPTIONS and `$` frames never gets an
id, whatever the others do (`Hub.Nameless.run`).  So it has no transport either,
its frames go nowhere and its requests change nobody's session.
-/
import RtspServer.Proofs.Arena

namespace RtspServer

/-! ### Requests that are barred -/

/-- The answer that carries a CSeq and a Session, if they are there. -/
def Response.echo (cseq? session? : Option Text) : Response :=
  let withCSeq := match cseq? with
    | some value => ({} : Response).withHeader "CSeq".toList value
    | none => {}
  match session? with
  | some value => withCSeq.withHeader "Session".toList value
  | none => withCSeq

/-- The answer to a request that is barred, and all that it is made of. -/
def rejection (cseq? session? : Option Text) (challenge : Text) : Response :=
  ((Response.echo cseq? session?).withStatus 401).withHeader "WWW-Authenticate".toList challenge

namespace Authenticator

/-- A request that has to validate and does not. -/
def Bars (a : Authenticator) (r : Request) : Prop := r.method ≠ .options ∧ a.validate r = false

/-- A request that need not validate, or does not. -/
def Idles (a : Authenticator) (r : Request) : Prop := r.method = .options ∨ a.validate r = false

end Authenticator

/-- The connection that an event comes from, if it says so. -/
def Operation.actor? : Operation → Option ConnId
  | .disconnect conn => some conn
  | .request client _ _ => some client.conn
  | .setUp conn _ => some conn
  | .teardown asking _ => some asking
  | .deliver conn _ => some conn
  | _ => none

/-- What a client can do without valid credentials: send OPTIONS, barred requests and `$` frames,
and leave. -/
def Operation.Unproven (a : Authenticator) : Operation → Prop
  | .request _ r _ => a.Idles r
  | .deliver .. | .disconnect _ => True
  | _ => False

namespace Hub

section Answer

variable {h : Hub} {a : Authenticator} (ha : h.authenticator = some a)

include ha

/-- **The answer to a barred request.**  The hub notes the peer and does nothing else; the client is
closed if it has sent credentials. -/
theorem answer_of_bars {r : Request} (hr : a.Bars r) (c : Client) (now : Nat) :
    h.answer c r now =
      (rejection r.cseq? (r.header? "Session") a.challenge,
        { c with closing := c.closing || (r.header? "Authorization").isSome },
        h.touch c.peer now) := by
  have hmethod : (r.method == .options) = false := beq_eq_false_iff_ne.mpr hr.1
  have ha' : (h.touch c.peer now).authenticator = some a := ha
  have hno : h.isAuthorized r = false := by
    simp only [isAuthorized, ha, hmethod, hr.2, Bool.or_false]
  have hreject : (h.touch c.peer now).reject r =
      rejection r.cseq? (r.header? "Session") a.challenge := by
    simp only [reject, ha']
    rfl
  rw [answer_of_refused (Bool.eq_false_iff.mp hno), hreject]

/-- Neither OPTIONS nor a barred request does more to the hub. -/
theorem hub_answer_of_idles {r : Request} (hr : a.Idles r) (c : Client) (now : Nat) :
    (h.answer c r now).2.2 = h.touch c.peer now := by
  by_cases hoptions : r.method = .options
  · have hpass : h.isAuthorized r = true := by
      unfold isAuthorized
      split
      · rfl
      · simp [hoptions]
    simp only [answer_of_passed hpass, dispatch, hoptions]
  · rw [answer_of_bars ha ⟨hoptions, hr.resolve_left hoptions⟩]

end Answer

/-- Another value for a header that is neither the CSeq nor the Session. -/
theorem header?_withHeader_of_ne (r : Request) {name : Text} {other : String} (value : Text)
    (hne : name.eqFold other.toList = false) :
    (r.withHeader name value).header? other = r.header? other :=
  Headers.get?_insert_of_ne r.headers hne value

/-- **Invalid credentials look alike**: whatever is wrong with them, the answer is the same. -/
theorem answer_withAuthorization {h : Hub} {a : Authenticator} (ha : h.authenticator = some a)
    {r : Request} {v w : Text} (hv : a.Bars (r.withHeader "Authorization".toList v))
    (hw : a.Bars (r.withHeader "Authorization".toList w)) (c : Client) (now : Nat) :
    h.answer c (r.withHeader "Authorization".toList v) now =
      h.answer c (r.withHeader "Authorization".toList w) now := by
  have hcseq : ∀ u, (r.withHeader "Authorization".toList u).cseq? = r.cseq? :=
    fun u => header?_withHeader_of_ne r u (by decide)
  have hsession : ∀ u, (r.withHeader "Authorization".toList u).header? "Session" =
      r.header? "Session" := fun u => header?_withHeader_of_ne r u (by decide)
  have hthere : ∀ u, (r.withHeader "Authorization".toList u).header? "Authorization" = some u :=
    fun u => Headers.get?_insert_self r.headers _ u
  simp only [answer_of_bars ha hv, answer_of_bars ha hw, hcseq, hsession, hthere, Option.isSome]

/-! ### Connections without a name -/

/-- The entry of a connection has no id, if it lives. -/
structure Nameless (conn : ConnId) (h : Hub) : Prop where
  below : conn < h.nextConn
  id : ∀ t ∈ h.sessions, t.conn = conn → t.id = none

namespace Nameless

variable {conn : ConnId} {h h' : Hub}

/-- An entry whose id is the one it had has none if it had none. -/
theorem of_origin (hs : Nameless conn h) (hnext : h.nextConn ≤ h'.nextConn)
    (horigin : ∀ t ∈ h'.sessions, t.conn = conn → ∃ s ∈ h.sessions, s.conn = conn ∧ t.id = s.id) :
    Nameless conn h' := by
  refine ⟨Nat.lt_of_lt_of_le hs.below hnext, fun t ht hconn => ?_⟩
  obtain ⟨s, hmem, hsconn, hid⟩ := horigin t ht hconn
  rw [hid, hs.id s hmem hsconn]

theorem of_map (hs : Nameless conn h) {f : Session → Session}
    (hf : ∀ s, (f s).conn = s.conn ∧ (s.conn = conn → (f s).id = s.id))
    (hnext : h'.nextConn = h.nextConn) (hsessions : h'.sessions = h.sessions.map f) :
    Nameless conn h' := by
  refine hs.of_origin (Nat.le_of_eq hnext.symm) fun t ht hconn => ?_
  rw [hsessions] at ht
  obtain ⟨s, hmem, rfl⟩ := List.mem_map.mp ht
  have hsconn : s.conn = conn := (hf s).1.symm.trans hconn
  exact ⟨s, hmem, hsconn, (hf s).2 hsconn⟩

theorem media (hs : Nameless conn h) (m : Media) : Nameless conn { h with media := m } :=
  ⟨hs.below, hs.id⟩

theorem evict (hs : Nameless conn h) (p keepOutlet : Session → Bool) :
    Nameless conn (h.evict p keepOutlet).2 :=
  ⟨hs.below, fun t ht => hs.id t (List.mem_filter.mp ht).1⟩

theorem update (hs : Nameless conn h) (other : ConnId) {f : Session → Session}
    (hf : ∀ s, (f s).conn = s.conn ∧ (f s).id = s.id) : Nameless conn (h.update other f) := by
  refine hs.of_map (fun s => ?_) rfl rfl
  split
  · exact ⟨(hf s).1, fun _ => (hf s).2⟩
  · exact ⟨rfl, fun _ => rfl⟩

theorem touch (hs : Nameless conn h) (peer : SocketAddress) (now : Nat) :
    Nameless conn (h.touch peer now) := by
  refine hs.of_map (fun s => ?_) rfl rfl
  split <;> exact ⟨rfl, fun _ => rfl⟩

theorem register (hs : Nameless conn h) (peer : SocketAddress) (outlet : Outlet) (now : Nat) :
    Nameless conn (h.register peer outlet now).2 := by
  refine ⟨Nat.lt_succ_of_lt hs.below, fun t ht hconn => ?_⟩
  rcases List.mem_append.mp ht with ht | ht
  · exact hs.id t ht hconn
  · rw [List.mem_singleton.mp ht]

/-- A transport that is bound to another connection. -/
theorem setUp (hs : Nameless conn h) {other : ConnId} (hne : other ≠ conn)
    (transport : TransportId) : Nameless conn (h.setUp other transport).2 := by
  rcases h.setUp_cases other transport with ⟨_, _, e⟩ | ⟨_, _, _, _, e⟩ | ⟨_, _, _, _, e⟩ <;>
    rw [e]
  · exact hs
  · exact hs.media _
  · refine hs.of_map (fun t => ?_) rfl rfl
    split
    · next hother => exact ⟨rfl, fun hconn => absurd (hother.symm.trans hconn) hne⟩
    · exact ⟨rfl, fun _ => rfl⟩

theorem play (hs : Nameless conn h) (id : Text) : Nameless conn (h.play id).2 := by
  unfold Hub.play
  split
  · exact hs
  · split
    · exact hs
    · exact hs.update _ fun _ => ⟨rfl, rfl⟩

theorem pause (hs : Nameless conn h) (id : Text) : Nameless conn (h.pause id).2 := by
  unfold Hub.pause
  split
  · exact hs
  · exact hs.update _ fun _ => ⟨rfl, rfl⟩

/-- Answering another connection. -/
theorem answer (hs : Nameless conn h) {c : Client} (hne : c.conn ≠ conn) (r : Request)
    (now : Nat) : Nameless conn (h.answer c r now).2.2 := by
  have hsteps : Answering c (Nameless conn) := {
    touch := fun _ now hs => hs.touch c.peer now
    opened := fun _ _ _ _ m hs _ => hs.media m
    setUp := fun _ transport hs => hs.setUp hne transport
    play := fun _ id hs => hs.play id
    pause := fun _ id hs => hs.pause id
    teardown := fun _ _ hs => hs.evict _ _ }
  exact hsteps.answer hs r now

theorem deliver (hs : Nameless conn h) (other : ConnId) (frame : Frame) :
    Nameless conn (h.deliver other frame).2 := by
  unfold Hub.deliver
  split
  · exact hs.media _
  · exact hs

theorem feed (hs : Nameless conn h) (picture : Picture) (wall : Rtcp.NtpTime) :
    Nameless conn (h.feed picture wall).2 := by
  by_cases hd : h.deliveries = []
  · rw [feed_eq_self (Or.inl hd)]
    exact hs
  rcases hp : h.packetizer.packets picture with fault | packets
  · rw [feed_eq_self (Or.inr ⟨fault, hp⟩)]
    exact hs
  rw [feed_eq hd hp]
  -- entries leave, and those that stay get their counters back
  refine ((hs.media _).evict _ _).of_map (fun s => ?_) rfl rfl
  exact ⟨(s.revised_settle _).conn, fun _ => (s.revised_settle _).id⟩

theorem reap (hs : Nameless conn h) (now : Nat) : Nameless conn (h.reap now).2 := by
  have hdrain : Nameless conn h.drain := by
    refine hs.of_origin (Nat.le_refl _) fun t ht hconn => ?_
    obtain ⟨s, hmem, rfl⟩ := List.mem_map.mp ht
    exact ⟨s, hmem, hconn, rfl⟩
  exact hdrain.evict _ _

/-- **A step of a run.**  Whatever happens, a connection without a name stays without one, as long
as what it does itself it does without credentials. -/
theorem perform (hs : Nameless conn h) {a : Authenticator} (ha : h.authenticator = some a)
    {o : Operation} (ho : o.actor? = some conn → o.Unproven a) :
    Nameless conn (h.perform o).2 := by
  cases o with
  | connect peer outlet now => exact hs.register peer outlet now
  | disconnect other => exact hs.evict _ _
  | touch peer now => exact hs.touch peer now
  | request client r now =>
    by_cases hc : client.conn = conn
    · have hidle : a.Idles r := ho (congrArg some hc)
      show Nameless conn (h.answer client r now).2.2
      rw [hub_answer_of_idles ha hidle]
      exact hs.touch client.peer now
    · exact hs.answer hc r now
  | setUp other transport =>
    refine hs.setUp (fun hc => ?_) transport
    exact ho (congrArg some hc)
  | play id => exact hs.play id
  | pause id => exact hs.pause id
  | teardown asking id => exact hs.evict _ _
  | closeAll => exact hs.evict _ _
  | feed picture wall => exact hs.feed picture wall
  | deliver other frame => exact hs.deliver other frame
  | reap now => exact hs.reap now
  | reclaim => exact hs.media _
  | incident incident => exact hs.media _

theorem run (hs : Nameless conn h) (hn : h.Numbered) {a : Authenticator}
    (ha : h.authenticator = some a) {operations : List Operation}
    (hall : ∀ o ∈ operations, o.actor? = some conn → o.Unproven a) :
    Nameless conn (h.run operations) := by
  induction operations generalizing h with
  | nil => exact hs
  | cons o rest ih =>
    have hstep := hs.perform ha (hall o List.mem_cons_self)
    have ha' : (h.perform o).2.authenticator = some a := ((choices_run hn [o]).2).trans ha
    exact ih hstep (numbered_run hn [o]) ha' fun o ho => hall o (List.mem_cons_of_mem _ ho)

end Nameless

/-- A frame from a connection without a transport goes nowhere. -/
theorem deliver_of_unbound {h : Hub} {conn : ConnId}
    (hs : ∀ t ∈ h.sessions, t.conn = conn → t.stream.transport = none) (frame : Frame) :
    h.deliver conn frame = (false, h) := by
  have hnone : (h.entry? conn).bind (·.stream.transport) = none := by
    rcases he : h.entry? conn with - | s
    · rfl
    · obtain ⟨hmem, hconn⟩ := mem_of_entry_eq he
      exact hs s hmem hconn
  simp only [deliver, hnone]

/-! ### After any run -/

section Opened

variable (settings : Settings) (a : Authenticator) (packetizer : Jpeg.Packetizer)
  (entropy : Entropy) (ports : PortPool) (linkFault : Option Text)

/-- **Nobody gets past the challenge.**  In any state of a run of a hub that asks for credentials:

* a barred request is answered with 401, by the rejection made of its CSeq, its Session and the
  challenge; the hub notes when the peer was seen and is the same otherwise, and the client is
  closed if it has sent credentials;
* so two barred requests with the same CSeq and Session get the same octets wherever the challenge
  is the same, and nothing at all tells invalid credentials from each other.

Let a connection be registered in that state and let any run follow in which it does nothing that
takes credentials.

* Its entry has no id and no transport and never delivers.
* Its requests change nothing but when their peer was seen, and its frames change nothing. -/
theorem barred_gains_nothing (before after : List Operation) (peer : SocketAddress)
    (outlet : Outlet) (now : Nat) :
    let start := (opened settings (some a) packetizer entropy ports linkFault).run before
    let first := (start.register peer outlet now).1
    let h := (start.register peer outlet now).2.run after
    (∀ c r t, a.Bars r →
      (start.answer c r t).1.status = 401 ∧
      start.answer c r t =
        (rejection r.cseq? (r.header? "Session") a.challenge,
          { c with closing := c.closing || (r.header? "Authorization").isSome },
          { start with sessions := start.sessions.map fun s =>
              if s.peer = c.peer then { s with lastSeen := t } else s })) ∧
    (∀ (other : Hub) (b : Authenticator) c r t c' r' t', other.authenticator = some b →
      b.challenge = a.challenge → a.Bars r → b.Bars r' → r'.cseq? = r.cseq? →
      r'.header? "Session" = r.header? "Session" →
        (other.answer c' r' t').1.wire = (start.answer c r t).1.wire) ∧
    (∀ c (r : Request) v w t, a.Bars (r.withHeader "Authorization".toList v) →
      a.Bars (r.withHeader "Authorization".toList w) →
        start.answer c (r.withHeader "Authorization".toList v) t =
          start.answer c (r.withHeader "Authorization".toList w) t) ∧
    ((∀ o ∈ after, o.actor? = some first.conn → o.Unproven a) →
      (∀ t ∈ h.sessions, t.conn = first.conn →
        t.id = none ∧ t.stream.transport = none ∧ t.phase = .init) ∧
      (∀ c r t, a.Idles r →
        (h.answer c r t).2.2 = { h with sessions := h.sessions.map fun s =>
          if s.peer = c.peer then { s with lastSeen := t } else s }) ∧
      ∀ frame, h.deliver first.conn frame = (false, h)) := by
  intro start first h
  have hn₀ := numbered_opened settings (some a) packetizer entropy ports linkFault
  have hstart : start.Numbered := numbered_run hn₀ before
  have hregistered := numbered_run hstart [.connect peer outlet now]
  have ha : start.authenticator = some a := (choices_run hn₀ before).2
  have ha' : h.authenticator = some a := (choices_run hregistered after).2.trans ha
  refine ⟨fun c r t hr => ?_, ?_, fun c r v w t hv hw => answer_withAuthorization ha hv hw c t,
    fun hafter => ?_⟩
  · rw [answer_of_bars ha hr]
    exact ⟨rfl, rfl⟩
  · intro other b c r t c' r' t' hb hchallenge hr hr' hcseq hsession
    rw [answer_of_bars ha hr, answer_of_bars hb hr', hchallenge, hcseq, hsession]
  · have hcoherent : h.Coherent :=
      (((coherent_opened settings (some a) packetizer entropy ports linkFault).run hn₀ before).run
        hstart [.connect peer outlet now]).run hregistered after
    have hnew : Nameless first.conn (start.register peer outlet now).2 := by
      refine ⟨Nat.lt_succ_self _, fun t ht hconn => ?_⟩
      rcases List.mem_append.mp ht with ht | ht
      · exact absurd hconn (Nat.ne_of_lt (hstart.below t ht))
      · rw [List.mem_singleton.mp ht]
    have hnameless : Nameless first.conn h := hnew.run hregistered ha hafter
    -- having no id, no transport and nothing set up come to the same
    have hbare : ∀ t ∈ h.sessions, t.conn = first.conn →
        t.id = none ∧ t.stream.transport = none ∧ t.phase = .init := by
      intro t ht hconn
      have hid := hnameless.id t ht hconn
      exact ⟨hid, (hcoherent t ht).bound_iff.mp hid, (hcoherent t ht).init_iff.mpr hid⟩
    exact ⟨hbare, fun c r t hr => hub_answer_of_idles ha' hr c t,
      deliver_of_unbound fun t ht hconn => (hbare t ht hconn).2.1⟩

end Opened

/-- A hub that asks for a password. -/
def doorkeeper : Authenticator :=
  .basic ⟨"admin".toList, "secret".toList, "cam".toList⟩

/-- A SETUP with credentials that cannot be read. -/
def forgery : Request where
  method := .setup
  target := "rtsp://cam/live".toList
  headers := ⟨[("CSeq".toList, ['1']), ("Authorization".toList, "Basic admin:admin".toList),
    ("Transport".toList, "RTP/AVP/TCP".toList)]⟩

/-- The first client to come in. -/
def intruder : Client := { conn := 1, peer := ⟨.v4 127 0 0 1, 4000, 0⟩, outlet := 0 }

theorem intruder_gains_nothing :
    let packetizer : Jpeg.Packetizer := { mtu_pos := Nat.succ_pos 1399 }
    let entropy : Entropy := ⟨UInt16.ofNat, UInt32.ofNat, UInt64.ofNat, 0, 0, 0⟩
    let start := opened {} (some doorkeeper) packetizer entropy {} none
    let attempts := [.request intruder forgery 1, .deliver 1 ⟨0, []⟩]
    let h := (start.register intruder.peer {} 0).2.run attempts
    doorkeeper.Bars forgery ∧ (start.answer intruder forgery 1).1.status = 401 ∧
      (∀ o ∈ attempts, o.actor? = some 1 → o.Unproven doorkeeper) ∧
      h.connectionCount = 1 ∧
      ∀ t ∈ h.sessions, t.conn = 1 → t.id = none ∧ t.stream.transport = none ∧ t.phase = .init := by
  intro packetizer entropy start attempts h
  have hbars : doorkeeper.Bars forgery := ⟨by decide, by decide⟩
  have hattempts : ∀ o ∈ attempts, o.actor? = some 1 → o.Unproven doorkeeper := by
    intro o ho _
    rcases List.mem_cons.mp ho with rfl | ho
    · exact Or.inr hbars.2
    · rw [List.mem_singleton.mp ho]
      exact trivial
  have hgains := barred_gains_nothing {} doorkeeper packetizer entropy {} none [] attempts
    intruder.peer {} 0
  exact ⟨hbars, (hgains.1 intruder forgery 1 hbars).1, hattempts, by decide,
    (hgains.2.2.2 hattempts).1⟩

end Hub

end RtspServer
