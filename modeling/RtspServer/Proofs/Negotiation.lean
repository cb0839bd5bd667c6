/-
RtspServer/Proofs/Negotiation.lean

What SETUP agrees on.  An offer is usable if it asks for no multicast and either
goes over the control connection, or names the ports of the client while the
range of the server has a free pair (`TransportOffer.Usable`).  The first usable
offer is served, and what is answered says what carries the packets
(`TransportOffer.Serves`).

The new transport comes after all others, so whatever was bound before stays
where it is.
-/
import RtspServer.Proofs.Arena
import RtspServer.Proofs.Offer
import RtspServer.Proofs.Ownership
import RtspServer.Proofs.Ports

namespace RtspServer

/-! ### Usable offers -/

namespace TransportOffer

/-- An offer that can be served: no multicast, and over the control connection, or to ports that are
named while there is a free pair of ports. -/
def Usable (settings : Settings) (ports : PortPool) (o : TransportOffer) : Prop :=
  o.multicast = false ∧ (o.lower = .tcp ∨ (o.lower = .udp ∧ o.clientPort ≠ none ∧
    ∃ pair, ports.Free settings.firstPort settings.limitPort pair))

/-- What carries the packets when an offer of a client is served, and what is answered. -/
inductive Serves (settings : Settings) (ports : PortPool) (c : Client) (o : TransportOffer) :
    Carrier → TransportOffer → Prop
  /-- The channels of the offer, or the first two. -/
  | interleaved (hlower : o.lower = .tcp) :
    Serves settings ports c o (.interleaved c.outlet (o.interleaved.getD ⟨0, 1⟩))
      { lower := .tcp, interleaved := some (o.interleaved.getD ⟨0, 1⟩) }
  /-- The lowest free pair of ports, and those of the client. -/
  | datagrams {pair clientPorts : PortPair} (hlower : o.lower = .udp)
    (hclient : o.clientPort = some clientPorts)
    (hfree : ports.Free settings.firstPort settings.limitPort pair)
    (hlowest : ∀ other, ports.Free settings.firstPort settings.limitPort other →
      pair.rtp ≤ other.rtp) :
    Serves settings ports c o (.datagrams pair c.peer.ip clientPorts)
      { lower := .udp, clientPort := some clientPorts, serverPort := some pair }

end TransportOffer

/-! ### Transports that come last -/

theorem modify_last {α : Type} (l : List α) (x : α) (f : α → α) :
    (l ++ [x]).modify l.length f = l ++ [f x] := by
  induction l with
  | nil => rfl
  | cons y l ih => simp [ih]

namespace Media

variable {m : Media} {before : List Transport} {carrier : Carrier}

/-- A transport that has just been made starts. -/
theorem start_last (h : m.transports = before ++ [{ carrier := carrier }]) :
    m.start before.length =
      .ok { m with transports := before ++ [{ carrier := carrier, started := true }] } := by
  have hlast : m.transports[before.length]? = some { carrier := carrier } := by
    rw [h, List.getElem?_concat_length]
  rw [start, hlast]
  show Except.ok { m with transports := m.transports.modify before.length _ } = _
  rw [h, modify_last]

theorem stop_last {t : Transport} (h : m.transports = before ++ [t]) :
    m.stop before.length = { m with transports := before ++ [{ t with stopped := true }] } := by
  show { m with transports := m.transports.modify before.length _ } = _
  rw [h, modify_last]

end Media

namespace Hub

variable {h : Hub} {c : Client}

/-- A usable offer is served by a new transport, and others are not served. -/
theorem openTransport?_cases (h : Hub) (c : Client) (o : TransportOffer) :
    (o.Usable h.settings h.media.ports ∧ ∃ carrier reply m,
      h.openTransport? c o = some (h.media.transports.length, reply, m) ∧
      o.Serves h.settings h.media.ports c carrier reply ∧
      m.transports = h.media.transports ++ [{ carrier := carrier }] ∧
      m.outlets = h.media.outlets) ∨
    (¬o.Usable h.settings h.media.ports ∧ h.openTransport? c o = none) := by
  unfold openTransport?
  by_cases hcast : o.multicast = true
  · exact Or.inr ⟨fun hu => absurd (hu.1.symm.trans hcast) nofun, if_pos hcast⟩
  rw [if_neg hcast]
  have hcast : o.multicast = false := Bool.eq_false_iff.mpr hcast
  rcases hlower : o.lower with _ | _
  · rcases hclient : o.clientPort with - | clientPorts
    · refine Or.inr ⟨?_, rfl⟩
      rintro ⟨-, htcp | ⟨-, hsome, -⟩⟩
      · exact absurd (hlower.symm.trans htcp) nofun
      · exact hsome hclient
    · rcases h.media.ports.reserve_cases h.settings.firstPort h.settings.limitPort with
        ⟨pair, hfree, hlowest, e⟩ | ⟨hnone, e⟩
      · let m : Media := { h.media with
          transports := h.media.transports ++ [{ carrier := .datagrams pair c.peer.ip clientPorts }]
          ports := ⟨pair.rtcp :: pair.rtp :: h.media.ports.taken⟩ }
        have hopen : h.media.openDatagrams h.settings.firstPort h.settings.limitPort c.peer.ip
            clientPorts = .ok (pair, h.media.transports.length, m) := by
          rw [Media.openDatagrams, e]
          rfl
        refine Or.inl ⟨⟨hcast, Or.inr ⟨hlower, by simp [hclient], pair, hfree⟩⟩, _, _, m, ?_,
          .datagrams hlower hclient hfree hlowest, rfl, rfl⟩
        simp only [hopen]
      · refine Or.inr ⟨?_, ?_⟩
        · rintro ⟨-, htcp | ⟨-, -, pair, hfree⟩⟩
          · exact absurd (hlower.symm.trans htcp) nofun
          · exact hnone pair hfree
        · simp only [Media.openDatagrams, e]
          rfl
  · exact Or.inl ⟨⟨hcast, Or.inl hlower⟩, _, _, _, rfl, .interleaved hlower, rfl, rfl⟩

/-! ### Binding the first usable offer -/

/-- Offers that cannot be served are passed over. -/
theorem answerSetUp_append {before : List TransportOffer}
    (hbefore : ∀ o ∈ before, ¬o.Usable h.settings h.media.ports) (c : Client) (r : Request)
    (rest : List TransportOffer) :
    h.answerSetUp c r (before ++ rest) = h.answerSetUp c r rest := by
  induction before with
  | nil => rfl
  | cons o before ih =>
    obtain ⟨ho, hbefore⟩ := List.forall_mem_cons.mp hbefore
    rcases h.openTransport?_cases c o with ⟨hu, -⟩ | ⟨-, e⟩
    · exact absurd hu ho
    · rw [List.cons_append, answerSetUp, e]
      exact ih hbefore

/-- What is answered when a transport has been bound. -/
def agreement (h : Hub) (r : Request) (reply : TransportOffer) (setup : SetupReply) : Response :=
  (r.respond.withHeader "Transport".toList { reply with ssrc := some setup.ssrc }.text).withHeader
    "Session".toList (h.sessionHeader setup.id)

@[simp] theorem status_agreement (h : Hub) (r : Request) (reply : TransportOffer)
    (setup : SetupReply) : (h.agreement r reply setup).status = 200 :=
  r.status_respond

/-- For a connection that is not there the new transport is stopped again. -/
theorem answerSetUp_of_entry_none (hconn : h.entry? c.conn = none) {o : TransportOffer}
    (ho : o.Usable h.settings h.media.ports) (r : Request) (rest : List TransportOffer) :
    ∃ carrier m, h.answerSetUp c r (o :: rest) =
        (r.respond.withStatus 461, { h with media := m }) ∧
      m.transports = h.media.transports ++
        [{ carrier := carrier, started := true, stopped := true }] ∧
      m.outlets = h.media.outlets := by
  rcases h.openTransport?_cases c o with ⟨-, carrier, reply, m, e, -, hm, hout⟩ | ⟨hnot, -⟩
  · have hstart := Media.start_last hm
    refine ⟨carrier, { m with transports := h.media.transports ++
      [{ carrier := carrier, started := true, stopped := true }] }, ?_, rfl, hout⟩
    rw [answerSetUp, e]
    rcases setUp_cases { h with media := m } c.conn h.media.transports.length with
      ⟨_, hfault, -⟩ | ⟨m', _, hm', -, es⟩ | ⟨_, _, _, hs, -⟩
    · cases hstart.symm.trans hfault
    · obtain rfl := Except.ok.inj (hstart.symm.trans hm')
      have hstop := Media.stop_last (m := { m with transports := h.media.transports ++
        [{ carrier := carrier, started := true }] }) (show _ = h.media.transports ++ _ from rfl)
      simp only [es, hstop]
    · cases hconn.symm.trans hs
  · exact absurd ho hnot

/-- For a connection that is there the new transport is bound to its entry. -/
theorem answerSetUp_of_entry {s : Session} (hs : h.entry? c.conn = some s) {o : TransportOffer}
    (ho : o.Usable h.settings h.media.ports) (r : Request) (rest : List TransportOffer)
    (hold : ∀ id, s.stream.transport = some id → id < h.media.transports.length) :
    ∃ carrier reply m, o.Serves h.settings h.media.ports c carrier reply ∧
      m.transports[h.media.transports.length]? = some { carrier := carrier, started := true } ∧
      h.answerSetUp c r (o :: rest) =
        (h.agreement r reply ⟨(idFor h.entropy s).1, s.stream.ssrc⟩,
          { h with
            entropy := (idFor h.entropy s).2
            media := m
            sessions := h.sessions.map fun t => if t.conn = c.conn then
              bindTransport (idFor h.entropy s).1 h.media.transports.length t else t }) := by
  rcases h.openTransport?_cases c o with ⟨-, carrier, reply, m, e, hserves, hm, -⟩ | ⟨hnot, -⟩
  · have hstart := Media.start_last hm
    refine ⟨carrier, reply, stopTransport { m with
      transports := h.media.transports ++ [{ carrier := carrier, started := true }] } s,
      hserves, ?_, ?_⟩
    · -- the transport that was bound before is another one
      unfold stopTransport
      split
      · next id hid =>
        show (List.modify _ id _)[h.media.transports.length]? = _
        rw [List.getElem?_modify_ne _ _ (Nat.ne_of_lt (hold id hid)), List.getElem?_concat_length]
      · exact List.getElem?_concat_length
    · rw [answerSetUp, e]
      rcases setUp_cases { h with media := m } c.conn h.media.transports.length with
        ⟨_, hfault, -⟩ | ⟨_, _, _, hnone, -⟩ | ⟨m', s', hm', hs', es⟩
      · cases hstart.symm.trans hfault
      · cases hnone.symm.trans hs
      · obtain rfl := Except.ok.inj (hstart.symm.trans hm')
        obtain rfl := Option.some.inj (hs'.symm.trans hs)
        simp only [es]
        rfl
  · exact absurd ho hnot

end Hub

/-! ### The values of a header -/

/-- The values of the Transport header, readable or not. -/
def Request.transportValues (r : Request) : List Text :=
  ((r.header? "Transport").map (Text.splitOn ',')).getD []

/-- The offers of a SETUP are the readable values. -/
theorem Request.offers?_of_setup {r : Request} (hmethod : r.method = .setup) :
    r.offers?.getD [] = r.transportValues.filterMap TransportOffer.read? := by
  unfold Request.offers? Request.transportValues
  rw [hmethod]
  rcases r.header? "Transport" with - | value <;> rfl

/-- The first member of a list that has a property, if there is one. -/
theorem exists_first {α : Type} (P : α → Prop) (l : List α) :
    (∀ x ∈ l, ¬P x) ∨ ∃ before x rest, l = before ++ x :: rest ∧ (∀ y ∈ before, ¬P y) ∧ P x := by
  induction l with
  | nil => exact Or.inl fun x hx => absurd hx List.not_mem_nil
  | cons y l ih =>
    by_cases hy : P y
    · exact Or.inr ⟨[], y, l, rfl, fun x hx => absurd hx List.not_mem_nil, hy⟩
    · rcases ih with hnone | ⟨before, x, rest, rfl, hbefore, hx⟩
      · exact Or.inl (List.forall_mem_cons.mpr ⟨hy, hnone⟩)
      · exact Or.inr ⟨y :: before, x, rest, rfl, List.forall_mem_cons.mpr ⟨hy, hbefore⟩, hx⟩

namespace Hub

variable {h : Hub} {c : Client}

/-- A value that reads as an offer which can be served. -/
def Admits (h : Hub) (value : Text) : Prop :=
  ∃ o, TransportOffer.read? value = some o ∧ o.Usable h.settings h.media.ports

/-- Values that cannot be served are passed over. -/
theorem answerSetUp_values {before : List Text} (hbefore : ∀ v ∈ before, ¬h.Admits v) (c : Client)
    (r : Request) (rest : List Text) :
    h.answerSetUp c r ((before ++ rest).filterMap TransportOffer.read?) =
      h.answerSetUp c r (rest.filterMap TransportOffer.read?) := by
  rw [List.filterMap_append]
  refine answerSetUp_append (fun o ho hu => ?_) c r _
  obtain ⟨v, hv, hread⟩ := List.mem_filterMap.mp ho
  exact hbefore v hv ⟨o, hread, hu⟩

theorem answer_of_setup {r : Request} (hmethod : r.method = .setup)
    (hpass : h.isAuthorized r = true) (c : Client) (now : Nat) :
    h.answer c r now =
      (((h.touch c.peer now).answerSetUp c r
          (r.transportValues.filterMap TransportOffer.read?)).1, c,
        ((h.touch c.peer now).answerSetUp c r
          (r.transportValues.filterMap TransportOffer.read?)).2) := by
  simp only [answer_of_passed hpass, dispatch, hmethod, Request.offers?_of_setup hmethod]

/-- The transport of an entry runs. -/
theorem Owned.runs (hh : h.Owned) {s : Session} (hs : s ∈ h.sessions) {id : TransportId}
    (hid : s.stream.transport = some id) :
    ∃ t, h.media.transports[id]? = some t ∧ t.started = true ∧ t.stopped = false := by
  obtain ⟨st, hst, hrun⟩ := hh.running s hs id hid
  obtain ⟨t, ht, rfl⟩ := Media.getElem?_of_standing? hst
  exact ⟨t, ht, hrun⟩

theorem stream_seen (peer : SocketAddress) (now : Nat) (s : Session) :
    (seen peer now s).stream = s.stream ∧ (seen peer now s).id = s.id := by
  unfold seen
  split <;> exact ⟨rfl, rfl⟩

theorem idFor_seen (e : Entropy) (peer : SocketAddress) (now : Nat) (s : Session) :
    idFor e (seen peer now s) = idFor e s := by
  rw [idFor, (stream_seen peer now s).2, idFor]

/-- Binding a transport changes the entry of one connection. -/
theorem entry?_bind (h : Hub) (conn : ConnId) (id : Text) (transport : TransportId)
    (other : ConnId) :
    Hub.entry? { h with sessions := h.sessions.map fun t =>
        if t.conn = conn then bindTransport id transport t else t } other =
      if other = conn then (h.entry? conn).map (bindTransport id transport) else h.entry? other := by
  rw [h.entry?_map (fun t => by split <;> rfl) other]
  split
  · next hsame =>
    rw [hsame]
    exact Option.map_congr fun t ht => if_pos (mem_of_entry_eq ht).2
  · next hother =>
    refine (Option.map_congr fun t ht => ?_).trans Option.map_id'
    exact if_neg fun hconn => hother ((mem_of_entry_eq ht).2.symm.trans hconn)

/-- What SETUP makes of an entry. -/
theorem bindTransport_seen (id : Text) (transport : TransportId) (peer : SocketAddress) (now : Nat)
    (s : Session) : bindTransport id transport (seen peer now s) = { s with
      id := some id
      phase := if s.phase = .init then .ready else s.phase
      lastSeen := if s.peer = peer then now else s.lastSeen
      stream := { s.stream with transport := some transport } } := by
  unfold seen
  split <;> rfl

section SetUp

variable {r : Request} (hh : h.Owned) (hmethod : r.method = .setup)
  (hpass : h.isAuthorized r = true) (now : Nat)

include hmethod hpass

/-- Nothing can be served: the client is told so, and its peer has been seen. -/
theorem answer_of_unusable (hnone : ∀ v ∈ r.transportValues, ¬h.Admits v) :
    h.answer c r now = (r.respond.withStatus 461, c, h.touch c.peer now) := by
  have hvalues := answerSetUp_values (h := h.touch c.peer now) hnone c r []
  rw [List.append_nil] at hvalues
  rw [answer_of_setup hmethod hpass, hvalues]
  rfl

variable {before rest : List Text} {value : Text} {o : TransportOffer}
  (hvalues : r.transportValues = before ++ value :: rest) (hbefore : ∀ v ∈ before, ¬h.Admits v)
  (hread : TransportOffer.read? value = some o) (hu : o.Usable h.settings h.media.ports)

include hvalues hbefore hread hu

/-- The connection is not there: the new transport is stopped again. -/
theorem answer_of_absent (hconn : h.entry? c.conn = none) :
    ∃ carrier m, h.answer c r now =
        (r.respond.withStatus 461, c, { h.touch c.peer now with media := m }) ∧
      m.transports = h.media.transports ++
        [{ carrier := carrier, started := true, stopped := true }] ∧
      m.outlets = h.media.outlets := by
  have hconn' : Hub.entry? (h.touch c.peer now) c.conn = none := by
    rw [entry?_touch, hconn]
    rfl
  obtain ⟨carrier, m, e, hm⟩ := answerSetUp_of_entry_none hconn' hu r
    (rest.filterMap TransportOffer.read?)
  refine ⟨carrier, m, ?_, hm⟩
  rw [answer_of_setup hmethod hpass, hvalues, answerSetUp_values (h := h.touch c.peer now) hbefore,
    List.filterMap_cons_some hread, e]

include hh

/-- The connection is there: the first value that can be served is served and bound. -/
theorem answer_of_usable {s : Session} (hs : h.entry? c.conn = some s) :
    ∃ carrier reply m, o.Serves h.settings h.media.ports c carrier reply ∧
      m.transports[h.media.transports.length]? = some { carrier := carrier, started := true } ∧
      h.answer c r now =
        (h.agreement r reply ⟨(idFor h.entropy s).1, s.stream.ssrc⟩, c,
          { h.touch c.peer now with
            entropy := (idFor h.entropy s).2
            media := m
            sessions := (h.touch c.peer now).sessions.map fun t => if t.conn = c.conn then
              bindTransport (idFor h.entropy s).1 h.media.transports.length t else t }) := by
  have hs' : Hub.entry? (h.touch c.peer now) c.conn = some (seen c.peer now s) := by
    rw [entry?_touch, hs]
    rfl
  have hold : ∀ id, (seen c.peer now s).stream.transport = some id →
      id < (h.touch c.peer now).media.transports.length := by
    intro id hid
    rw [(stream_seen ..).1] at hid
    obtain ⟨t, ht, -⟩ := hh.runs (mem_of_entry_eq hs).1 hid
    exact (List.getElem?_eq_some_iff.mp ht).1
  obtain ⟨carrier, reply, m, hserves, hm, e⟩ := answerSetUp_of_entry hs' hu r
    (rest.filterMap TransportOffer.read?) hold
  rw [(stream_seen ..).1, idFor_seen] at e
  refine ⟨carrier, reply, m, hserves, hm, ?_⟩
  rw [answer_of_setup hmethod hpass, hvalues, answerSetUp_values (h := h.touch c.peer now) hbefore,
    List.filterMap_cons_some hread, e]
  rfl

end SetUp

/-- A SETUP that may pass finds nothing that can be served, or no connection, or it is granted. -/
theorem answered_cases {r : Request} (hh : h.Owned) (hmethod : r.method = .setup)
    (hpass : h.isAuthorized r = true) (now : Nat) :
    ((∀ v ∈ r.transportValues, ¬h.Admits v) ∧
      h.answer c r now = (r.respond.withStatus 461, c, h.touch c.peer now)) ∨
    (h.entry? c.conn = none ∧ ∃ carrier m, h.answer c r now =
        (r.respond.withStatus 461, c, { h.touch c.peer now with media := m }) ∧
      m.transports = h.media.transports ++
        [{ carrier := carrier, started := true, stopped := true }]) ∨
    ((∃ v ∈ r.transportValues, h.Admits v) ∧ ∃ s carrier reply m, h.answer c r now =
        (h.agreement r reply ⟨(idFor h.entropy s).1, s.stream.ssrc⟩, c,
          { h.touch c.peer now with
            entropy := (idFor h.entropy s).2
            media := m
            sessions := (h.touch c.peer now).sessions.map fun t => if t.conn = c.conn then
              bindTransport (idFor h.entropy s).1 h.media.transports.length t else t }) ∧
      h.entry? c.conn = some s ∧
      m.transports[h.media.transports.length]? =
        some { carrier := carrier, started := true }) := by
  -- the first value that can be served settles the answer
  rcases exists_first h.Admits r.transportValues with
    hnone | ⟨before, value, rest, hvalues, hbefore, o, hread, hu⟩
  · exact Or.inl ⟨hnone, answer_of_unusable hmethod hpass now hnone⟩
  · rcases hs : h.entry? c.conn with - | s
    · obtain ⟨carrier, m, e, hm, -⟩ :=
        answer_of_absent hmethod hpass now hvalues hbefore hread hu hs
      exact Or.inr (Or.inl ⟨rfl, carrier, m, e, hm⟩)
    · obtain ⟨carrier, reply, m, -, hm, e⟩ :=
        answer_of_usable hh hmethod hpass now hvalues hbefore hread hu hs
      refine Or.inr (Or.inr ⟨⟨value, ?_, o, hread, hu⟩, s, carrier, reply, m, e, rfl, hm⟩)
      rw [hvalues]
      exact List.mem_append_right _ List.mem_cons_self

/-! ### After any run -/

section Opened

variable (settings : Settings) (authenticator : Option Authenticator)
  (packetizer : Jpeg.Packetizer) (entropy : Entropy) (ports : PortPool) (linkFault : Option Text)

/-- **What SETUP agrees on.**  After any run of a hub that was opened without connections, and for a
SETUP that may pass:

* it is answered with 200 or 461, and with 200 if and only if the connection is there and one of the
  values of the Transport header can be served;
* the first value that can be served is served, and the new transport runs for the entry of the
  connection; the entry is as it was but for its transport, its id, its phase if it was `init`, and
  when its peer was seen;
* the id is the one that the entry had, and only if it had none is a word drawn for it;
* the Transport header of the answer reads as what carries the packets, with the source of the
  entry, and the Session header is the id with the timeout;
* with 461 no entry changes but for when its peer was seen, nothing is drawn, and transports that
  are bound stay as they are and run; if the connection is there nothing else happens at all, and
  if it is not, at most one new transport is left behind, stopped. -/
theorem setup_negotiated (operations : List Operation) (c : Client) (r : Request) (now : Nat)
    (hmethod : r.method = .setup) :
    let h := (opened settings authenticator packetizer entropy ports linkFault).run operations
    let response := (h.answer c r now).1
    let after := (h.answer c r now).2.2
    h.isAuthorized r = true →
    (response.status = 200 ∨ response.status = 461) ∧
    (response.status = 200 ↔
      h.entry? c.conn ≠ none ∧ ∃ value ∈ r.transportValues, h.Admits value) ∧
    (∀ s, h.entry? c.conn = some s → ∀ before value rest,
      r.transportValues = before ++ value :: rest → (∀ v ∈ before, ¬h.Admits v) →
      ∀ o, TransportOffer.read? value = some o → o.Usable h.settings h.media.ports →
      ∃ carrier reply transport id line,
        o.Serves h.settings h.media.ports c carrier reply ∧
        after.media.transports[transport]? = some { carrier := carrier, started := true } ∧
        after.entry? c.conn = some { s with
          id := some id
          phase := if s.phase = .init then .ready else s.phase
          lastSeen := if s.peer = c.peer then now else s.lastSeen
          stream := { s.stream with transport := some transport } } ∧
        (∀ old, s.id = some old → id = old ∧ after.entropy = h.entropy) ∧
        (s.id = none → (id, after.entropy) = h.entropy.drawSession) ∧
        response.headers.get? "Transport".toList = some line ∧
        TransportOffer.read? line = some { reply with ssrc := some s.stream.ssrc } ∧
        response.headers.get? "Session".toList =
          some (id ++ ";timeout=".toList ++ Text.decimal (settings.timeout / 1000))) ∧
    (response.status = 461 →
      after.sessions = (h.touch c.peer now).sessions ∧ after.entropy = h.entropy ∧
      (h.entry? c.conn ≠ none → after = h.touch c.peer now) ∧
      (∃ stray, after.media.transports = h.media.transports ++ stray ∧ stray.length ≤ 1 ∧
        ∀ t ∈ stray, t.stopped = true) ∧
      ∀ s ∈ h.sessions, ∀ id, s.stream.transport = some id →
        ∃ t, h.media.transports[id]? = some t ∧ after.media.transports[id]? = some t ∧
          t.started = true ∧ t.stopped = false) := by
  intro h response after hpass
  have hn₀ := numbered_opened settings authenticator packetizer entropy ports linkFault
  have hh : h.Owned :=
    (owned_opened settings authenticator packetizer entropy ports linkFault).run hn₀ operations
  have hsettings : h.settings = settings := (choices_run hn₀ operations).1
  have hruns : ∀ s ∈ h.sessions, ∀ id, s.stream.transport = some id →
      ∃ t, h.media.transports[id]? = some t ∧ t.started = true ∧ t.stopped = false :=
    fun s hs id hid => hh.runs hs hid
  have hanswer := answered_cases hh hmethod hpass now (c := c)
  refine ⟨?_, ?_, ?_, ?_⟩
  · rcases hanswer with ⟨-, e⟩ | ⟨-, _, _, e, -⟩ | ⟨-, _, _, _, _, e, -⟩
    · exact Or.inr (by simp [response, e])
    · exact Or.inr (by simp [response, e])
    · exact Or.inl (by simp [response, e])
  · rcases hanswer with ⟨hnone, e⟩ | ⟨hconn, _, _, e, -⟩ | ⟨hsome, s, _, _, _, e, hs⟩
    · refine ⟨fun h200 => by simp [response, e] at h200, ?_⟩
      exact fun ⟨_, value, hmem, hadmits⟩ => absurd hadmits (hnone value hmem)
    · exact ⟨fun h200 => by simp [response, e] at h200, fun h => absurd hconn h.1⟩
    · exact ⟨fun _ => ⟨by simp [hs], hsome⟩, fun _ => by simp [response, e]⟩
  · intro s hs before value rest hvalues hbefore o hread hu
    obtain ⟨carrier, reply, m, hserves, hm, e⟩ :=
      answer_of_usable hh hmethod hpass now hvalues hbefore hread hu hs
    have hresponse : response = h.agreement r reply ⟨(idFor h.entropy s).1, s.stream.ssrc⟩ :=
      congrArg (·.1) e
    have hafter : after = { h.touch c.peer now with
        entropy := (idFor h.entropy s).2
        media := m
        sessions := (h.touch c.peer now).sessions.map fun t => if t.conn = c.conn then
          bindTransport (idFor h.entropy s).1 h.media.transports.length t else t } :=
      congrArg (·.2.2) e
    refine ⟨carrier, reply, h.media.transports.length, (idFor h.entropy s).1,
      { reply with ssrc := some s.stream.ssrc }.text, hserves, ?_, ?_, ?_, ?_, ?_,
      TransportOffer.read?_text _, ?_⟩
    · rw [hafter]
      exact hm
    · rw [hafter]
      refine ((h.touch c.peer now).entry?_bind c.conn _ _ c.conn).trans ?_
      rw [if_pos rfl, entry?_touch, hs, Option.map_some, Option.map_some, bindTransport_seen]
    · intro old hold
      rw [hafter, idFor, hold]
      exact ⟨rfl, rfl⟩
    · intro hnone
      rw [hafter, idFor, hnone]
    · rw [hresponse]
      refine (Headers.get?_insert_of_ne _ (by decide) _).trans ?_
      exact Headers.get?_insert_self _ _ _
    · rw [hresponse, ← hsettings]
      exact Headers.get?_insert_self _ _ _
  · intro h461
    rcases hanswer with ⟨-, e⟩ | ⟨hconn, carrier, m, e, hm⟩ | ⟨-, _, _, _, _, e, -⟩
    · have hafter : after = h.touch c.peer now := congrArg (·.2.2) e
      rw [hafter]
      refine ⟨rfl, rfl, fun _ => rfl, ⟨[], (List.append_nil _).symm, Nat.zero_le _,
        fun t ht => absurd ht List.not_mem_nil⟩, fun s hs id hid => ?_⟩
      obtain ⟨t, ht, hrun⟩ := hruns s hs id hid
      exact ⟨t, ht, ht, hrun⟩
    · have hafter : after = { h.touch c.peer now with media := m } := congrArg (·.2.2) e
      rw [hafter]
      refine ⟨rfl, rfl, fun hsome => absurd hconn hsome, ⟨_, hm, Nat.le_refl _, by simp⟩,
        fun s hs id hid => ?_⟩
      obtain ⟨t, ht, hrun⟩ := hruns s hs id hid
      refine ⟨t, ht, ?_, hrun⟩
      show m.transports[id]? = some t
      rw [hm, List.getElem?_append_left (List.getElem?_eq_some_iff.mp ht).1, ht]
    · simp [response, e] at h461

end Opened

/-- A SETUP that offers datagrams without saying where to, something unreadable, and then the
control connection. -/
def threeOffers : Request where
  method := .setup
  target := "rtsp://cam/live".toList
  headers := ⟨[("CSeq".toList, ['1']),
    ("Transport".toList, "RTP/AVP;unicast, x, RTP/AVP/TCP;interleaved=2-3".toList)]⟩

theorem third_offer_negotiated :
    let entropy : Entropy := ⟨UInt16.ofNat, UInt32.ofNat, UInt64.ofNat, 0, 0, 0⟩
    let h := (opened {} none { mtu_pos := Nat.succ_pos 1399 } entropy {} none).run
      [.connect ⟨.v4 127 0 0 1, 4000, 0⟩ {} 0]
    let client : Client := { conn := 1, peer := ⟨.v4 127 0 0 1, 4000, 0⟩, outlet := 0 }
    (h.answer client threeOffers 5).1.status = 200 ∧
      ∃ line, (h.answer client threeOffers 5).1.headers.get? "Transport".toList = some line ∧
        TransportOffer.read? line =
          some { lower := .tcp, interleaved := some ⟨2, 3⟩, ssrc := some 0 } := by
  intro entropy h client
  have hvalues : threeOffers.transportValues = ["RTP/AVP;unicast".toList, " x".toList] ++
      " RTP/AVP/TCP;interleaved=2-3".toList :: [] := by decide
  have hread : TransportOffer.read? " RTP/AVP/TCP;interleaved=2-3".toList =
      some { lower := .tcp, interleaved := some ⟨2, 3⟩ } := by decide
  have hpassed : ∀ v ∈ ["RTP/AVP;unicast".toList, " x".toList], ¬h.Admits v := by
    have hfirst : TransportOffer.read? "RTP/AVP;unicast".toList = some { lower := .udp } := by decide
    have hsecond : TransportOffer.read? " x".toList = none := by decide
    refine List.forall_mem_cons.mpr ⟨?_, List.forall_mem_singleton.mpr ?_⟩
    · rintro ⟨o, ho, hu⟩
      obtain rfl := Option.some.inj (hfirst.symm.trans ho)
      rcases hu.2 with htcp | ⟨-, hclient, -⟩
      · cases htcp
      · exact hclient rfl
    · rintro ⟨o, ho, -⟩
      exact absurd (hsecond.symm.trans ho) nofun
  obtain ⟨-, hstatus, hbound, -⟩ := setup_negotiated {} none { mtu_pos := Nat.succ_pos 1399 } entropy
    {} none [.connect ⟨.v4 127 0 0 1, 4000, 0⟩ {} 0] client threeOffers 5 rfl (by decide)
  refine ⟨hstatus.mpr ⟨by decide, _, by decide, _, hread, rfl, Or.inl rfl⟩, ?_⟩
  obtain ⟨s, hs⟩ : ∃ s, h.entry? 1 = some s ∧ s.stream.ssrc = 0 := ⟨_, rfl, rfl⟩
  obtain ⟨carrier, reply, transport, id, line, hserves, -, -, -, -, hline, hreply, -⟩ :=
    hbound s hs.1 _ _ _ hvalues hpassed _ hread ⟨rfl, Or.inl rfl⟩
  refine ⟨line, hline, hreply.trans ?_⟩
  rw [hs.2]
  cases hserves with
  | interleaved => rfl
  | datagrams hlower => cases hlower

end Hub

end RtspServer
