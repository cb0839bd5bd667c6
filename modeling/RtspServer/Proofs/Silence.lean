/-
RtspServer/Proofs/Silence.lean

What depends on the packets that a client has sent.  They wait in the inbox of a
transport and are counted in an entry, and nothing but the count depends on them.

Let a hub be silenced for a connection and a transport: the inbox of the
transport is emptied and the count of the connection set to zero
(`Hub.silenced`).  Every operation does to the silenced hub what it does to the
hub, once both are silenced (`Hub.perform_silenced`).  So two hubs that
differ only in what is silenced do so after any run, if the transport is that of
the connection and of nobody else (`Hub.Private.run_silenced`).
-/
import RtspServer.Proofs.Emptying
import RtspServer.Proofs.Entry
import RtspServer.Proofs.Ownership

namespace RtspServer

/-- An entry with its count set to zero, if it is that of a connection. -/
def Session.uncounted (conn : ConnId) (s : Session) : Session :=
  { s with stream := { s.stream with
      rtcpReceived := if s.conn = conn then 0 else s.stream.rtcpReceived } }

theorem Session.uncounted_of_ne {conn : ConnId} {s : Session} (hs : s.conn ≠ conn) :
    s.uncounted conn = s := by
  rw [uncounted, if_neg hs]

theorem Session.uncounted_uncounted (conn : ConnId) (s : Session) :
    (s.uncounted conn).uncounted conn = s.uncounted conn := by
  unfold uncounted
  split <;> rfl

theorem Session.transport_uncounted (conn : ConnId) (s : Session) :
    (s.uncounted conn).stream.transport = s.stream.transport := rfl

/-! ### Sending -/

namespace Delivery

variable (clock : UInt32) (wall : Rtcp.NtpTime) (id : TransportId)

theorem sendReport_clearInbox (d : Delivery) (m : Media) :
    d.sendReport clock wall (m.clearInbox id) =
      ((d.sendReport clock wall m).1, (d.sendReport clock wall m).2.clearInbox id) := by
  unfold sendReport
  split
  · rw [Media.send_clearInbox]
    rcases m.send d.transport .control (d.senderReport clock wall).write with fault | m' <;> rfl
  · rfl

theorem sendPacket_clearInbox (d : Delivery) (m : Media) (packet : Bytes) :
    sendPacket (d, m.clearInbox id) packet =
      ((sendPacket (d, m) packet).1, (sendPacket (d, m) packet).2.clearInbox id) := by
  simp only [sendPacket]
  split
  · rfl
  · rw [Media.send_clearInbox]
    rcases m.send d.transport .data (d.stamped packet) with fault | m' <;> rfl

theorem send_clearInbox (packets : List Bytes) (d : Delivery) (m : Media) :
    d.send clock wall packets (m.clearInbox id) =
      ((d.send clock wall packets m).1, (d.send clock wall packets m).2.clearInbox id) := by
  rw [send, sendReport_clearInbox]
  exact List.foldl_hom (fun state : Delivery × Media => (state.1, state.2.clearInbox id))
    fun state packet => sendPacket_clearInbox id state.1 state.2 packet

theorem sendAll_clearInbox (packets : List Bytes) (deliveries : List Delivery) (m : Media) :
    sendAll clock wall packets deliveries (m.clearInbox id) =
      ((sendAll clock wall packets deliveries m).1,
        (sendAll clock wall packets deliveries m).2.clearInbox id) := by
  induction deliveries generalizing m with
  | nil => rfl
  | cons d rest ih => simp only [sendAll, send_clearInbox, ih]

/-- The verdict on an entry does not depend on its count. -/
theorem settle_uncounted (deliveries : List Delivery) (conn : ConnId) (s : Session) :
    settle deliveries (s.uncounted conn) = (settle deliveries s).uncounted conn := by
  have hconcerns : concerns (s.uncounted conn) = concerns s := rfl
  rw [settle, hconcerns, settle]
  rcases deliveries.find? (concerns s) with - | d <;> rfl

end Delivery

namespace Hub

/-- A hub in which what the client of a connection has sent through a transport does not show. -/
def silenced (conn : ConnId) (id : TransportId) (h : Hub) : Hub :=
  { h with
    media := h.media.clearInbox id
    sessions := h.sessions.map (·.uncounted conn) }

section Silenced

variable (conn : ConnId) (id : TransportId) (h : Hub)

theorem silenced_silenced : (h.silenced conn id).silenced conn id = h.silenced conn id := by
  simp only [silenced, Media.clearInbox_clearInbox, List.map_map, Function.comp_def,
    Session.uncounted_uncounted]

theorem entry?_silenced (other : ConnId) :
    Hub.entry? (h.silenced conn id) other = (h.entry? other).map (·.uncounted conn) :=
  h.entry?_map (f := (·.uncounted conn)) (fun _ => rfl) other

theorem session?_silenced (name : Text) :
    (h.silenced conn id).session? name = (h.session? name).map (·.uncounted conn) :=
  List.find?_map ..

/-! ### Operations -/

theorem stopTransport_clearInbox (m : Media) (s : Session) :
    stopTransport (m.clearInbox id) (s.uncounted conn) = (stopTransport m s).clearInbox id := by
  rw [stopTransport, Session.transport_uncounted, stopTransport]
  rcases s.stream.transport with - | other
  · rfl
  · exact m.stop_clearInbox id other

/-- Entries go whatever they count. -/
theorem evict_silenced {p keepOutlet : Session → Bool}
    (hp : ∀ s : Session, p (s.uncounted conn) = p s)
    (hkeep : ∀ s : Session, keepOutlet (s.uncounted conn) = keepOutlet s) :
    ((h.silenced conn id).evict p keepOutlet).2 = (h.evict p keepOutlet).2.silenced conn id := by
  have hgone : (h.sessions.map (·.uncounted conn)).filter p =
      (h.sessions.filter p).map (·.uncounted conn) := by
    rw [List.filter_map]
    exact congrArg (List.map _) (List.filter_congr fun s _ => hp s)
  have hkept : (h.sessions.map (·.uncounted conn)).filter (!p ·) =
      (h.sessions.filter (!p ·)).map (·.uncounted conn) := by
    rw [List.filter_map]
    exact congrArg (List.map _) (List.filter_congr fun s _ => congrArg (!·) (hp s))
  have hmedia : (((h.sessions.filter p).map (·.uncounted conn)).foldl (letGo keepOutlet)
      (h.media.clearInbox id)) =
      ((h.sessions.filter p).foldl (letGo keepOutlet) h.media).clearInbox id := by
    rw [List.foldl_map]
    refine List.foldl_hom (fun m : Media => m.clearInbox id) fun m s => ?_
    simp only [letGo, hkeep, stopTransport_clearInbox]
    split <;> rfl
  simp only [evict, silenced, hgone, hkept, hmedia]

/-- A change of entries where they stand that has nothing to do with what they count. -/
theorem map_silenced {f : Session → Session}
    (hf : ∀ s : Session, f (s.uncounted conn) = (f s).uncounted conn) :
    ({ h.silenced conn id with sessions := (h.silenced conn id).sessions.map f } : Hub) =
      ({ h with sessions := h.sessions.map f } : Hub).silenced conn id := by
  simp only [silenced, List.map_map, Function.comp_def, hf]

theorem update_silenced {f : Session → Session}
    (hf : ∀ s : Session, f (s.uncounted conn) = (f s).uncounted conn) (other : ConnId) :
    (h.silenced conn id).update other f = (h.update other f).silenced conn id := by
  refine map_silenced conn id h fun s => ?_
  show (if s.conn = other then f (s.uncounted conn) else s.uncounted conn) = _
  split
  · exact hf s
  · rfl

theorem register_silenced (peer : SocketAddress) (outlet : Outlet) (now : Nat) :
    ((h.silenced conn id).register peer outlet now).2 =
      (h.register peer outlet now).2.silenced conn id := by
  have hnew : ∀ s : Session, s.stream.rtcpReceived = 0 → s.uncounted conn = s := by
    intro s hs
    rw [Session.uncounted, hs, ite_self, ← hs]
  simp only [register, silenced, List.map_append, List.map_cons, List.map_nil]
  rw [hnew _ rfl]
  rfl

theorem touch_silenced (peer : SocketAddress) (now : Nat) :
    (h.silenced conn id).touch peer now = (h.touch peer now).silenced conn id := by
  refine map_silenced conn id h fun s => ?_
  show (if s.peer = peer then _ else _) = _
  split <;> rfl

theorem setUp_silenced (other : ConnId) (transport : TransportId) :
    (h.silenced conn id).setUp other transport =
      ((h.setUp other transport).1, (h.setUp other transport).2.silenced conn id) := by
  have hstart : (h.silenced conn id).media.start transport =
      (h.media.start transport).map (·.clearInbox id) := h.media.start_clearInbox id transport
  rw [setUp, hstart, entry?_silenced, setUp]
  rcases h.media.start transport with fault | m
  · rfl
  rcases h.entry? other with - | s
  · exact congrArg (fun m => (_, ({ h.silenced conn id with media := m } : Hub)))
      (m.stop_clearInbox id transport)
  · -- binding has nothing to do with what is counted
    let bound : Hub :=
      { h with entropy := (idFor h.entropy s).2, media := stopTransport m s }
    have hbound : ({ h.silenced conn id with
        entropy := (idFor h.entropy s).2
        media := stopTransport (m.clearInbox id) (s.uncounted conn) } : Hub) =
        bound.silenced conn id := by
      rw [stopTransport_clearInbox]
      rfl
    have hafter := congrArg (fun k : Hub => k.update other
      (bindTransport (idFor h.entropy s).1 transport)) hbound
    rw [update_silenced conn id bound fun _ => by rfl] at hafter
    exact congrArg (Prod.mk _) hafter

theorem play_silenced (name : Text) :
    (h.silenced conn id).play name = ((h.play name).1, (h.play name).2.silenced conn id) := by
  rw [play, session?_silenced, play]
  rcases h.session? name with - | s
  · rfl
  · have htransport := s.transport_uncounted conn
    simp only [Option.map_some, htransport]
    split
    · rfl
    · exact congrArg (Prod.mk _) (update_silenced conn id h (fun _ => by rfl) s.conn)

theorem pause_silenced (name : Text) :
    (h.silenced conn id).pause name = ((h.pause name).1, (h.pause name).2.silenced conn id) := by
  rw [pause, session?_silenced, pause]
  rcases h.session? name with - | s
  · rfl
  · exact congrArg (Prod.mk _) (update_silenced conn id h (fun _ => by rfl) s.conn)

theorem teardown_silenced (asking : ConnId) (name : Text) :
    ((h.silenced conn id).teardown asking name).2 =
      (h.teardown asking name).2.silenced conn id :=
  evict_silenced conn id h (fun _ => rfl) fun _ => rfl

theorem openTransport?_silenced (c : Client) (offer : TransportOffer) :
    (h.silenced conn id).openTransport? c offer =
      (h.openTransport? c offer).map fun x => (x.1, x.2.1, x.2.2.clearInbox id) := by
  have hmedia : (h.silenced conn id).media = h.media.clearInbox id := rfl
  have hsettings : (h.silenced conn id).settings = h.settings := rfl
  unfold openTransport?
  split
  · rfl
  split
  · simp only [hmedia, Media.openInterleaved_clearInbox]
    rfl
  · rcases offer.clientPort with - | clientPorts
    · rfl
    · simp only [hmedia, hsettings, Media.openDatagrams_clearInbox]
      rcases h.media.openDatagrams h.settings.firstPort h.settings.limitPort c.peer.ip
        clientPorts with fault | ⟨pair, i, m⟩ <;> rfl

theorem answerSetUp_silenced (c : Client) (r : Request) (offers : List TransportOffer) :
    ((h.silenced conn id).answerSetUp c r offers).2 =
      (h.answerSetUp c r offers).2.silenced conn id := by
  induction offers with
  | nil => rfl
  | cons offer rest ih =>
    rw [answerSetUp, openTransport?_silenced, answerSetUp]
    rcases h.openTransport? c offer with - | ⟨transport, reply, media⟩
    · exact ih
    · have hsetup : ({ h.silenced conn id with media := media.clearInbox id } : Hub).setUp c.conn
          transport = _ := setUp_silenced conn id { h with media } c.conn transport
      simp only [Option.map_some, hsetup]
      rcases ({ h with media } : Hub).setUp c.conn transport with ⟨fault | reply, after⟩ <;> rfl

theorem answerPlay_silenced (r : Request) :
    ((h.silenced conn id).answerPlay r).2 = (h.answerPlay r).2.silenced conn id := by
  unfold answerPlay
  rcases r.sessionId? with - | name
  · rfl
  · simp only [play_silenced]
    rcases h.play name with ⟨fault | number, after⟩
    · cases fault <;> rfl
    · rfl

theorem answerPause_silenced (r : Request) :
    ((h.silenced conn id).answerPause r).2 = (h.answerPause r).2.silenced conn id := by
  unfold answerPause
  rcases r.sessionId? with - | name
  · rfl
  · simp only [pause_silenced]
    rcases h.pause name with ⟨fault | _, after⟩ <;> rfl

theorem answerTeardown_silenced (c : Client) (r : Request) :
    ((h.silenced conn id).answerTeardown c r).2.2 =
      (h.answerTeardown c r).2.2.silenced conn id := by
  unfold answerTeardown
  rcases r.sessionId? with - | name
  · rfl
  · exact teardown_silenced conn id h c.conn name

theorem dispatch_silenced (c : Client) (r : Request) :
    ((h.silenced conn id).dispatch c r).2.2 = (h.dispatch c r).2.2.silenced conn id := by
  unfold dispatch
  cases r.method with
  | setup => exact answerSetUp_silenced conn id h c r _
  | play => exact answerPlay_silenced conn id h r
  | pause => exact answerPause_silenced conn id h r
  | teardown => exact answerTeardown_silenced conn id h c r
  | _ => rfl

theorem answer_silenced (c : Client) (r : Request) (now : Nat) :
    ((h.silenced conn id).answer c r now).2.2 = (h.answer c r now).2.2.silenced conn id := by
  have hpass : ((h.touch c.peer now).silenced conn id).isAuthorized r =
      (h.touch c.peer now).isAuthorized r := rfl
  simp only [answer, touch_silenced, hpass]
  split
  · exact dispatch_silenced conn id _ c r
  · rfl

theorem deliveries_silenced : (h.silenced conn id).deliveries = h.deliveries := by
  show (h.sessions.map (·.uncounted conn)).filterMap Delivery.ofSession? = _
  rw [List.filterMap_map]
  rfl

theorem conclude_silenced (deliveries : List Delivery) :
    ((h.silenced conn id).conclude deliveries).2 =
      (h.conclude deliveries).2.silenced conn id := by
  have hgone : ((h.silenced conn id).evict (Delivery.failedFor deliveries) fun _ => false).2 =
      (h.evict (Delivery.failedFor deliveries) fun _ => false).2.silenced conn id :=
    evict_silenced conn id h (fun _ => rfl) fun _ => rfl
  simp only [conclude, hgone]
  exact map_silenced conn id _ (Delivery.settle_uncounted deliveries conn)

theorem feed_silenced (picture : Picture) (wall : Rtcp.NtpTime) :
    ((h.silenced conn id).feed picture wall).2 = (h.feed picture wall).2.silenced conn id := by
  have hdeliveries := deliveries_silenced conn id h
  have hpacketizer : (h.silenced conn id).packetizer = h.packetizer := rfl
  by_cases hd : h.deliveries = []
  · rw [feed_eq_self (Or.inl hd), feed_eq_self (Or.inl (hdeliveries.trans hd))]
  rcases hp : h.packetizer.packets picture with fault | packets
  · rw [feed_eq_self (Or.inr ⟨fault, hp⟩), feed_eq_self (Or.inr ⟨fault, hpacketizer ▸ hp⟩)]
  · have hmedia : (h.silenced conn id).media = h.media.clearInbox id := rfl
    rw [feed_eq hd hp, feed_eq (hdeliveries ▸ hd) (hpacketizer ▸ hp), hdeliveries, hmedia]
    simp only [Delivery.sendAll_clearInbox]
    exact conclude_silenced conn id { h with media := _ } _

/-- Media that are the same once the inbox is emptied are the same in a silenced hub. -/
theorem silenced_of_media {m m' : Media} (hm : m.clearInbox id = m'.clearInbox id) :
    ({ h.silenced conn id with media := m } : Hub).silenced conn id =
      ({ h with media := m' } : Hub).silenced conn id := by
  simp only [silenced, hm, List.map_map, Function.comp_def, Session.uncounted_uncounted]

theorem deliver_silenced (other : ConnId) (frame : Frame) :
    ((h.silenced conn id).deliver other frame).2.silenced conn id =
      (h.deliver other frame).2.silenced conn id := by
  have htransport : (Hub.entry? (h.silenced conn id) other).bind (·.stream.transport) =
      (h.entry? other).bind (·.stream.transport) := by
    rw [entry?_silenced, Option.bind_map]
    rfl
  rw [deliver, htransport, deliver]
  rcases (h.entry? other).bind (·.stream.transport) with - | i
  · exact silenced_silenced conn id h
  · exact silenced_of_media conn id h (h.media.clearInbox_deliver id i frame)

theorem emptyInboxes_silenced (sessions : List Session) (m : Media) :
    (sessions.map (·.uncounted conn)).foldl emptyInbox (m.clearInbox id) =
      (sessions.foldl emptyInbox m).clearInbox id := by
  rw [List.foldl_map]
  refine List.foldl_hom (fun m : Media => m.clearInbox id) fun m s => ?_
  rw [emptyInbox, Session.transport_uncounted, emptyInbox]
  rcases s.stream.transport with - | i
  · rfl
  · exact m.updateTransport_clearInbox id (fun _ => by rfl) i

/-- **Counting reports.**  Whoever is not silenced has its reports counted as before, since the
transport is not its own. -/
theorem drain_silenced (hown : ∀ s ∈ h.sessions, Holds s id → s.conn = conn) :
    (h.silenced conn id).drain.silenced conn id = h.drain.silenced conn id := by
  have hmedia : (h.silenced conn id).drain.media = h.drain.media.clearInbox id :=
    emptyInboxes_silenced conn id h.sessions h.media
  have hsessions : (h.silenced conn id).drain.sessions.map (·.uncounted conn) =
      h.drain.sessions.map (·.uncounted conn) := by
    simp only [drain, silenced, List.map_map]
    refine List.map_congr_left fun s hs => ?_
    by_cases hconn : s.conn = conn
    · simp only [Function.comp_apply, Session.uncounted, if_pos hconn]
    · -- what waits for another entry waits in another inbox
      have hpending : pendingReports (h.media.clearInbox id) s = pendingReports h.media s := by
        unfold pendingReports
        split
        · next i hi =>
          have hne : id ≠ i := fun he => hconn (hown s hs (he ▸ hi))
          rw [Media.inbox_clearInbox, if_neg hne]
        · rfl
      rw [Function.comp_apply, Function.comp_apply, Function.comp_apply,
        Session.uncounted_of_ne hconn, hpending]
  show ({ h with
      media := (h.silenced conn id).drain.media.clearInbox id
      sessions := (h.silenced conn id).drain.sessions.map (·.uncounted conn) } : Hub) = _
  rw [hmedia, hsessions, Media.clearInbox_clearInbox]
  rfl

theorem isIdle_silenced (now : Nat) : (h.silenced conn id).isIdle now = h.isIdle now := by
  have hkind : (h.silenced conn id).media.kind? = h.media.kind? := h.media.kind?_clearInbox id
  funext s
  simp only [isIdle, isInterleaved, hkind]
  rfl

theorem reap_silenced (hown : ∀ s ∈ h.sessions, Holds s id → s.conn = conn) (now : Nat) :
    ((h.silenced conn id).reap now).2.silenced conn id =
      (h.reap now).2.silenced conn id := by
  have hdrain := drain_silenced conn id h hown
  have hidle : (h.silenced conn id).drain.isIdle now = h.drain.isIdle now := by
    rw [← isIdle_silenced conn id (h.silenced conn id).drain, hdrain, isIdle_silenced]
  have hevict : ∀ k : Hub, (k.evict (h.drain.isIdle now) fun _ => false).2.silenced conn id =
      ((k.silenced conn id).evict (h.drain.isIdle now) fun _ => false).2 :=
    fun k => (evict_silenced conn id k (fun _ => rfl) fun _ => rfl).symm
  show ((h.silenced conn id).drain.evict ((h.silenced conn id).drain.isIdle now)
    fun _ => false).2.silenced conn id = _
  rw [hidle, hevict, hdrain]
  exact (hevict h.drain).symm

/-- **An operation on a silenced hub** does what it does to the hub, once both are silenced. -/
theorem perform_silenced (hown : ∀ s ∈ h.sessions, Holds s id → s.conn = conn) (o : Operation) :
    ((h.silenced conn id).perform o).2.silenced conn id =
      (h.perform o).2.silenced conn id := by
  -- most operations give a silenced hub
  have hsame : ∀ {k k' : Hub}, k = k'.silenced conn id →
      k.silenced conn id = k'.silenced conn id := by
    rintro _ k' rfl
    exact silenced_silenced conn id k'
  cases o with
  | connect peer outlet now => exact hsame (register_silenced conn id h peer outlet now)
  | disconnect other => exact hsame (evict_silenced conn id h (fun _ => rfl) fun _ => rfl)
  | touch peer now => exact hsame (touch_silenced conn id h peer now)
  | request c r now => exact hsame (answer_silenced conn id h c r now)
  | setUp other transport =>
    exact hsame (congrArg Prod.snd (setUp_silenced conn id h other transport))
  | play name => exact hsame (congrArg Prod.snd (play_silenced conn id h name))
  | pause name => exact hsame (congrArg Prod.snd (pause_silenced conn id h name))
  | teardown asking name => exact hsame (teardown_silenced conn id h asking name)
  | closeAll => exact hsame (evict_silenced conn id h (fun _ => rfl) fun _ => rfl)
  | feed picture wall => exact hsame (feed_silenced conn id h picture wall)
  | deliver other frame => exact deliver_silenced conn id h other frame
  | reap now => exact reap_silenced conn id h hown now
  | reclaim =>
    exact silenced_of_media conn id h
      ((congrArg (fun m : Media => m.clearInbox id) (h.media.reclaimAll_clearInbox id)).trans
        (Media.clearInbox_clearInbox _ id))
  | incident incident => exact silenced_of_media conn id h (h.media.clearInbox_undergo id incident)

end Silenced

/-! ### Runs -/

/-- A transport that has started and is bound to no entry but that of one connection. -/
structure Private (conn : ConnId) (id : TransportId) (h : Hub) : Prop extends h.Numbered where
  started : ∃ st, h.media.standing? id = some st ∧ st.started = true
  own : ∀ s ∈ h.sessions, Holds s id → s.conn = conn

variable {conn : ConnId} {id : TransportId} {h k : Hub}

/-- The transport of an entry is its own. -/
theorem Owned.private (hn : h.Numbered) (hh : h.Owned) {s : Session} (hs : s ∈ h.sessions)
    (hid : Holds s id) : h.Private s.conn id := by
  obtain ⟨st, hst, hrun⟩ := hh.running s hs id hid
  exact ⟨hn, ⟨st, hst, hrun.1⟩, fun t ht htid => hh.apart t ht s hs id htid hid⟩

/-- A transport that has started is bound to nobody else any more. -/
theorem Private.perform (hh : h.Private conn id) (o : Operation) :
    (h.perform o).2.Private conn id := by
  have hc := changes_perform hh.toNumbered o
  obtain ⟨st, hst, hstarted⟩ := hh.started
  obtain ⟨st', hst', hon⟩ := hc.onward hst
  refine ⟨hh.toNumbered.changes hc, ⟨st', hst', hon.started hstarted⟩, fun t ht hid => ?_⟩
  obtain ⟨s, hs, hconn, hsid⟩ := hc.held hh.toNumbered hst hstarted ht hid
  exact hconn ▸ hh.own s hs hsid

/-- **Whatever happens afterwards**, hubs that differ only in what a client has sent through its
transport do so for good. -/
theorem Private.run_silenced (hh : h.Private conn id) (hk : k.Private conn id)
    (hsame : h.silenced conn id = k.silenced conn id) (operations : List Operation) :
    (h.run operations).silenced conn id = (k.run operations).silenced conn id := by
  induction operations generalizing h k with
  | nil => exact hsame
  | cons o rest ih =>
    refine ih (hh.perform o) (hk.perform o) ?_
    rw [← perform_silenced conn id h hh.own, hsame, perform_silenced conn id k hk.own]

/-- What is silenced does not show in the entries of others. -/
theorem entry?_of_silenced (hsame : h.silenced conn id = k.silenced conn id) {other : ConnId}
    (hne : other ≠ conn) : h.entry? other = k.entry? other := by
  have hentry : ∀ h : Hub, Hub.entry? (h.silenced conn id) other = h.entry? other := by
    intro h
    rw [entry?_silenced]
    rcases hs : h.entry? other with - | s
    · rfl
    · have hother : s.conn ≠ conn := (mem_of_entry_eq hs).2.symm ▸ hne
      exact congrArg some (Session.uncounted_of_ne hother)
  rw [← hentry h, hsame, hentry k]

/-- **A frame from one connection is nothing to the others**: whatever happens afterwards, their
entries are what they would be without it. -/
theorem Owned.entry?_run_deliver (hn : h.Numbered) (hh : h.Owned) (frame : Frame)
    {other : ConnId} (hne : other ≠ conn) (operations : List Operation) :
    Hub.entry? ((h.deliver conn frame).2.run operations) other =
      Hub.entry? (h.run operations) other := by
  rcases hs : h.entry? conn with - | s
  · rw [deliver, hs]
    rfl
  rcases hid : s.stream.transport with - | id
  · rw [deliver, hs, Option.bind_some, hid]
  obtain ⟨hmem, rfl⟩ := mem_of_entry_eq hs
  have hprivate : h.Private s.conn id := hh.private hn hmem hid
  have hprivate' : (h.deliver s.conn frame).2.Private s.conn id :=
    hprivate.perform (.deliver s.conn frame)
  have hsame : (h.deliver s.conn frame).2.silenced s.conn id = h.silenced s.conn id := by
    rw [deliver, hs, Option.bind_some, hid]
    exact congrArg (fun m => ({ h with
      media := m, sessions := h.sessions.map (·.uncounted s.conn) } : Hub))
      (h.media.clearInbox_deliver_self id frame)
  exact entry?_of_silenced (hprivate'.run_silenced hprivate hsame operations) hne

end Hub

end RtspServer
