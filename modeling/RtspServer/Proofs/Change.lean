/-
RtspServer/Proofs/Change.lean

What an operation can do to a hub, said once.  Every operation is a chain of
changes of five kinds (`Hub.Change`):

* a connection is registered;
* entries are evicted;
* a transport is bound to a connection, or the attempt fails;
* entries are revised where they stand, each within a relation `R`;
* the media change, but no transport is started or stopped, and no outlet is added.

`R` says how far a revision goes.  `Operation.Revises` lists what each operation
may make of an entry (`Hub.changes_perform_within`), and what all of these
revisions have in common follows from the list: every operation revises entries
within `Session.Revised`, which keeps who an entry belongs to, its id, its source
and its transport (`Hub.changes_perform`); every operation but feeding a picture
does so within `Session.Untouched`, which keeps the counters of the stream too
and forgets no report that is due (`Hub.changes_perform_of_quiet`).

So whatever the five kinds preserve holds in every state of a run
(`Hub.run_induction`).
-/
import RtspServer.Control.Operation
import RtspServer.Proofs.Answering
import RtspServer.Proofs.Standing
import Mathlib.Data.List.Nodup
import Mathlib.Logic.Relation

namespace RtspServer

namespace Session

/-- `t` is the entry `s`, with the same id, source and transport; its phase may have changed if it
has an id. -/
structure Revised (s t : Session) : Prop where
  conn : t.conn = s.conn
  peer : t.peer = s.peer
  outlet : t.outlet = s.outlet
  id : t.id = s.id
  ssrc : t.stream.ssrc = s.stream.ssrc
  transport : t.stream.transport = s.stream.transport
  phase : t.phase = s.phase ∨ (s.id.isSome ∧ (t.phase = .ready ∨ t.phase = .playing))

/-- A revision that leaves the counters of the stream alone and forgets no report that is due. -/
structure Untouched (s t : Session) : Prop extends s.Revised t where
  sequence : t.stream.sequence = s.stream.sequence
  packetCount : t.stream.packetCount = s.stream.packetCount
  octetCount : t.stream.octetCount = s.stream.octetCount
  reportDue : s.stream.reportDue = true → t.stream.reportDue = true

theorem Untouched.refl (s : Session) : s.Untouched s :=
  ⟨⟨rfl, rfl, rfl, rfl, rfl, rfl, Or.inl rfl⟩, rfl, rfl, rfl, fun hdue => hdue⟩

theorem Revised.refl (s : Session) : s.Revised s := (Untouched.refl s).toRevised

theorem untouched_seen {now : Nat} (s : Session) : s.Untouched { s with lastSeen := now } :=
  ⟨⟨rfl, rfl, rfl, rfl, rfl, rfl, Or.inl rfl⟩, rfl, rfl, rfl, fun hdue => hdue⟩

theorem untouched_started (s : Session) (hid : s.id.isSome) :
    s.Untouched { s with phase := .playing, stream := { s.stream with reportDue := true } } :=
  ⟨⟨rfl, rfl, rfl, rfl, rfl, rfl, Or.inr ⟨hid, Or.inr rfl⟩⟩, rfl, rfl, rfl, fun _ => rfl⟩

theorem untouched_paused (s : Session) (hid : s.id.isSome) :
    s.Untouched { s with phase := .ready } :=
  ⟨⟨rfl, rfl, rfl, rfl, rfl, rfl, Or.inr ⟨hid, Or.inl rfl⟩⟩, rfl, rfl, rfl, fun hdue => hdue⟩

theorem untouched_tallied (s : Session) (n : Nat) :
    s.Untouched { s with stream := { s.stream with rtcpReceived := n } } :=
  ⟨⟨rfl, rfl, rfl, rfl, rfl, rfl, Or.inl rfl⟩, rfl, rfl, rfl, fun hdue => hdue⟩

theorem revised_settle (deliveries : List Delivery) (s : Session) :
    s.Revised (Delivery.settle deliveries s) := by
  unfold Delivery.settle
  split
  · exact ⟨rfl, rfl, rfl, rfl, rfl, rfl, Or.inl rfl⟩
  · exact .refl s

end Session

/-- What an operation may make of an entry where it stands: nothing, or what befits its kind. -/
inductive Operation.Revises : Operation → Session → Session → Prop
  | refl (o : Operation) (s : Session) : Revises o s s
  | touched {peer : SocketAddress} {now : Nat} (s : Session) :
      Revises (.touch peer now) s { s with lastSeen := now }
  | heard {client : Client} {r : Request} {now : Nat} (s : Session) :
      Revises (.request client r now) s { s with lastSeen := now }
  | started {id : Text} (s : Session) (hid : s.id.isSome) :
      Revises (.play id) s
        { s with phase := .playing, stream := { s.stream with reportDue := true } }
  | startedBy {client : Client} {r : Request} {now : Nat} (s : Session)
      (hplay : r.method = .play) (hid : s.id.isSome) :
      Revises (.request client r now) s
        { s with phase := .playing, stream := { s.stream with reportDue := true } }
  | paused {id : Text} (s : Session) (hid : s.id.isSome) :
      Revises (.pause id) s { s with phase := .ready }
  | pausedBy {client : Client} {r : Request} {now : Nat} (s : Session) (hid : s.id.isSome) :
      Revises (.request client r now) s { s with phase := .ready }
  | settled {picture : Picture} {wall : Rtcp.NtpTime} (deliveries : List Delivery) (s : Session) :
      Revises (.feed picture wall) s (Delivery.settle deliveries s)
  | tallied {now : Nat} (s : Session) (n : Nat) :
      Revises (.reap now) s { s with stream := { s.stream with rtcpReceived := n } }

/-- All but the pictures leave the counters of a stream alone. -/
theorem Operation.Revises.untouched {o : Operation} (ho : o.isQuiet = true) {s t : Session}
    (hr : o.Revises s t) : s.Untouched t := by
  cases hr with
  | refl => exact .refl s
  | touched | heard => exact Session.untouched_seen s
  | started _ hid | startedBy _ _ hid => exact Session.untouched_started s hid
  | paused _ hid | pausedBy _ hid => exact Session.untouched_paused s hid
  | settled deliveries => cases ho
  | tallied _ n => exact Session.untouched_tallied s n

theorem Operation.Revises.revised {o : Operation} {s t : Session} (hr : o.Revises s t) :
    s.Revised t := by
  cases ho : o.isQuiet with
  | true => exact (hr.untouched ho).toRevised
  | false =>
    cases hr with
    | refl => exact .refl s
    | settled deliveries => exact Session.revised_settle deliveries s
    | _ => cases ho

namespace Hub

/-! ### Numbers of connections -/

/-- No two entries have the same connection, and no number is given out that is still to come. -/
structure Numbered (h : Hub) : Prop where
  nodup : (h.sessions.map (·.conn)).Nodup
  below : ∀ s ∈ h.sessions, s.conn < h.nextConn

theorem Numbered.eq_of_conn {h : Hub} (hn : h.Numbered) {s t : Session} (hs : s ∈ h.sessions)
    (ht : t ∈ h.sessions) (hc : s.conn = t.conn) : s = t :=
  List.inj_on_of_nodup_map hn.nodup hs ht hc

/-! ### The five kinds of change -/

/-- One change of a hub, with the revisions of entries within `R`. -/
inductive Change (R : Session → Session → Prop) : Hub → Hub → Prop
  | register (h : Hub) (peer : SocketAddress) (outlet : Outlet) (now : Nat) :
      Change R h (h.register peer outlet now).2
  | evict (h : Hub) (p keepOutlet : Session → Bool) : Change R h (h.evict p keepOutlet).2
  | setUp (h : Hub) (conn : ConnId) (transport : TransportId) :
      Change R h (h.setUp conn transport).2
  | revise (h : Hub) {f : Session → Session} (hf : ∀ s ∈ h.sessions, R s (f s)) :
      Change R h { h with sessions := h.sessions.map f }
  | media (h : Hub) {m : Media} (hm : h.media.Stays m) : Change R h { h with media := m }

/-- A chain of changes. -/
abbrev Changes (R : Session → Session → Prop) : Hub → Hub → Prop :=
  Relation.ReflTransGen (Change R)

theorem Change.mono {R Q : Session → Session → Prop} (hRQ : ∀ s t, R s t → Q s t) {h h' : Hub}
    (hc : Change R h h') : Change Q h h' := by
  cases hc with
  | register peer outlet now => exact .register h peer outlet now
  | evict p keepOutlet => exact .evict h p keepOutlet
  | setUp conn transport => exact .setUp h conn transport
  | revise hf => exact .revise h fun s hs => hRQ _ _ (hf s hs)
  | media hm => exact .media h hm

theorem Changes.mono {R Q : Session → Session → Prop} (hRQ : ∀ s t, R s t → Q s t) {h h' : Hub}
    (hc : Changes R h h') : Changes Q h h' :=
  Relation.ReflTransGen.mono (fun _ _ h => Change.mono hRQ h) _ _ hc

/-- What binding a transport does: nothing if the transport does not start, a stopped transport if
the connection is not there, and otherwise a new transport for the entry in place of the old one. -/
theorem setUp_cases (h : Hub) (conn : ConnId) (transport : TransportId) :
    (∃ fault, h.media.start transport = .error fault ∧
      h.setUp conn transport = (.error fault, h)) ∨
    (∃ m fault, h.media.start transport = .ok m ∧ h.entry? conn = none ∧
      h.setUp conn transport = (.error fault, { h with media := m.stop transport })) ∨
    (∃ m s, h.media.start transport = .ok m ∧ h.entry? conn = some s ∧
      h.setUp conn transport = (.ok ⟨(idFor h.entropy s).1, s.stream.ssrc⟩,
        { h with
          entropy := (idFor h.entropy s).2
          media := stopTransport m s
          sessions := h.sessions.map fun t =>
            if t.conn = conn then bindTransport (idFor h.entropy s).1 transport t else t })) := by
  unfold setUp
  rcases hm : h.media.start transport with fault | m
  · exact Or.inl ⟨fault, rfl, rfl⟩
  · rcases hs : h.entry? conn with - | s
    · exact Or.inr (Or.inl ⟨m, _, rfl, rfl, rfl⟩)
    · exact Or.inr (Or.inr ⟨m, s, rfl, rfl, rfl⟩)

theorem mem_of_entry_eq {h : Hub} {conn : ConnId} {s : Session} (hs : h.entry? conn = some s) :
    s ∈ h.sessions ∧ s.conn = conn :=
  ⟨List.mem_of_find?_eq_some hs, by simpa using List.find?_some hs⟩

theorem mem_of_session? {h : Hub} {id : Text} {s : Session} (hs : h.session? id = some s) :
    s ∈ h.sessions ∧ s.id = some id :=
  ⟨List.mem_of_find?_eq_some hs, by simpa [Session.answersTo] using List.find?_some hs⟩

/-- Changes keep the connections apart. -/
theorem Numbered.change {h h' : Hub} (hn : h.Numbered) (hc : Change Session.Revised h h') :
    h'.Numbered := by
  cases hc with
  | register peer outlet now =>
    constructor
    · show (List.map _ (h.sessions ++ [_])).Nodup
      rw [List.map_append, List.nodup_append]
      refine ⟨hn.nodup, by simp, ?_⟩
      -- the new number is above all that are there
      rintro c hc d hd rfl
      obtain ⟨s, hs, rfl⟩ := List.mem_map.mp hc
      have : s.conn = h.nextConn := by simpa using hd
      exact Nat.lt_irrefl _ (this ▸ hn.below s hs)
    · intro s hs
      show s.conn < h.nextConn + 1
      rcases List.mem_append.mp hs with hs | hs
      · exact Nat.lt_succ_of_lt (hn.below s hs)
      · rw [List.mem_singleton.mp hs]
        exact Nat.lt_succ_self _
  | evict p keepOutlet =>
    exact ⟨hn.nodup.sublist (List.filter_sublist.map _),
      fun s hs => hn.below s (List.mem_filter.mp hs).1⟩
  | setUp conn transport =>
    rcases h.setUp_cases conn transport with ⟨_, _, e⟩ | ⟨_, _, _, _, e⟩ | ⟨m, s, _, _, e⟩ <;>
      rw [e]
    · exact hn
    · exact ⟨hn.nodup, hn.below⟩
    · -- binding leaves every entry with its connection
      have hconn : ∀ t : Session, Session.conn (if t.conn = conn then
          bindTransport (idFor h.entropy s).1 transport t else t) = t.conn := by
        intro t
        split <;> rfl
      constructor
      · simpa only [List.map_map, Function.comp_def, hconn] using hn.nodup
      · intro t ht
        obtain ⟨u, hu, rfl⟩ := List.mem_map.mp ht
        rw [hconn]
        exact hn.below u hu
  | @revise f hf =>
    constructor
    · have hmap : (h.sessions.map f).map (·.conn) = h.sessions.map (·.conn) := by
        rw [List.map_map]
        exact List.map_congr_left fun s hs => (hf s hs).conn
      show ((h.sessions.map f).map (·.conn)).Nodup
      rw [hmap]
      exact hn.nodup
    · intro t ht
      obtain ⟨s, hs, rfl⟩ := List.mem_map.mp ht
      rw [(hf s hs).conn]
      exact hn.below s hs
  | media hm => exact ⟨hn.nodup, hn.below⟩

theorem Numbered.changes {h h' : Hub} (hn : h.Numbered) (hc : Changes Session.Revised h h') :
    h'.Numbered := by
  induction hc with
  | refl => exact hn
  | tail _ hstep ih => exact ih.change hstep

/-! ### Operations as chains of changes

Each is a chain of changes within any relation that allows the revision that the
operation makes. -/

section Operations

variable (h : Hub) {R : Session → Session → Prop}

section Revising

variable (hrefl : ∀ s, R s s)

include hrefl

theorem changes_touch {now : Nat} (hseen : ∀ s, R s { s with lastSeen := now })
    (peer : SocketAddress) : Changes R h (h.touch peer now) := by
  refine .single (.revise h fun s _ => ?_)
  split
  · exact hseen s
  · exact hrefl s

/-- Changing the entry of a connection, and no other. -/
theorem changes_update {h : Hub} (hn : h.Numbered) {s : Session} (hs : s ∈ h.sessions)
    {f : Session → Session} (hf : R s (f s)) : Changes R h (h.update s.conn f) := by
  refine .single (.revise h fun t ht => ?_)
  split
  · next hc =>
    rw [hn.eq_of_conn ht hs hc]
    exact hf
  · exact hrefl t

theorem changes_play {h : Hub} (hn : h.Numbered)
    (hstarted : ∀ s, s.id.isSome →
      R s { s with phase := .playing, stream := { s.stream with reportDue := true } })
    (id : Text) : Changes R h (h.play id).2 := by
  rcases h.play_cases id with ⟨_, e⟩ | ⟨s, hs, -, e⟩ <;> rw [e]
  obtain ⟨hmem, hid⟩ := mem_of_session? hs
  exact changes_update hrefl hn hmem (hstarted s (by simp [hid]))

theorem changes_pause {h : Hub} (hn : h.Numbered)
    (hpaused : ∀ s, s.id.isSome → R s { s with phase := .ready }) (id : Text) :
    Changes R h (h.pause id).2 := by
  unfold pause
  split
  · exact .refl
  · next s hs =>
    obtain ⟨hmem, hid⟩ := mem_of_session? hs
    exact changes_update hrefl hn hmem (hpaused s (by simp [hid]))

end Revising

theorem changes_teardown (asking : ConnId) (id : Text) : Changes R h (h.teardown asking id).2 :=
  .single (.evict h _ _)

theorem changes_deliver (conn : ConnId) (frame : Frame) : Changes R h (h.deliver conn frame).2 := by
  unfold deliver
  split
  · exact .single (.media h (Media.stays_deliver ..))
  · exact .refl

theorem stays_emptyInboxes (m : Media) (sessions : List Session) :
    m.Stays (sessions.foldl emptyInbox m) := by
  induction sessions generalizing m with
  | nil => exact .refl m
  | cons s rest ih =>
    have hfirst : m.Stays (emptyInbox m s) := by
      unfold emptyInbox
      split
      · exact Media.stays_clearInbox ..
      · exact .refl m
    exact hfirst.trans (ih _)

section Hearing

variable (hheard : ∀ s n, R s { s with stream := { s.stream with rtcpReceived := n } })

include hheard

theorem changes_drain : Changes R h h.drain := by
  have hm : h.media.Stays (h.sessions.foldl emptyInbox h.media) :=
    stays_emptyInboxes h.media h.sessions
  -- inboxes are emptied in the media, and the reports counted in the entries
  exact Relation.ReflTransGen.head (.media h hm) (.single (.revise _ fun s _ => hheard s _))

theorem changes_reap (now : Nat) : Changes R h (h.reap now).2 :=
  (changes_drain h hheard).tail (.evict h.drain _ _)

end Hearing

/-! ### Answers -/

theorem stays_openTransport? {h : Hub} {c : Client} {offer reply : TransportOffer}
    {id : TransportId} {m : Media} (ho : h.openTransport? c offer = some (id, reply, m)) :
    h.media.Stays m := by
  unfold openTransport? at ho
  split at ho
  · cases ho
  split at ho
  · simp only [Option.some.injEq, Prod.mk.injEq] at ho
    obtain ⟨-, -, rfl⟩ := ho
    exact Media.stays_openInterleaved _ _ _
  · split at ho
    · cases ho
    split at ho
    · cases ho
    · next hopen =>
      simp only [Option.some.injEq, Prod.mk.injEq] at ho
      obtain ⟨-, -, rfl⟩ := ho
      exact Media.stays_openDatagrams hopen

theorem changes_dispatch (hrefl : ∀ s, R s s) {h : Hub} (hn : h.Numbered) (c : Client)
    {r : Request}
    (hstarted : r.method = .play → ∀ s, s.id.isSome →
      R s { s with phase := .playing, stream := { s.stream with reportDue := true } })
    (hpaused : ∀ s, s.id.isSome → R s { s with phase := .ready }) :
    Changes R h (h.dispatch c r).2.2 := by
  have hcases := h.dispatch_cases c r
  generalize (h.dispatch c r).1 = response, (h.dispatch c r).2.2 = h' at hcases
  cases hcases with
  | idle | unplayed => exact .refl
  | bound hmethod ho =>
    exact Relation.ReflTransGen.head (.media h (stays_openTransport? ho))
      (.single (.setUp _ c.conn _))
  | played hmethod => exact changes_play hrefl hn (hstarted hmethod) _
  | paused => exact changes_pause hrefl hn hpaused _
  | tornDown => exact changes_teardown h c.conn _

/-! ### Feeding a picture -/

theorem stays_sendReport (clock : UInt32) (wall : Rtcp.NtpTime) (d : Delivery) (m : Media) :
    m.Stays (d.sendReport clock wall m).2 := by
  unfold Delivery.sendReport
  split
  · split
    · next hsend => exact Media.stays_send hsend
    · exact .refl m
  · exact .refl m

theorem stays_sendPacket (state : Delivery × Media) (packet : Bytes) :
    state.2.Stays (Delivery.sendPacket state packet).2 := by
  obtain ⟨d, m⟩ := state
  simp only [Delivery.sendPacket]
  split
  · exact .refl m
  · split
    · next hsend => exact Media.stays_send hsend
    · exact .refl m

theorem stays_sendPackets (packets : List Bytes) (state : Delivery × Media) :
    state.2.Stays (packets.foldl Delivery.sendPacket state).2 := by
  induction packets generalizing state with
  | nil => exact .refl _
  | cons packet rest ih => exact (stays_sendPacket state packet).trans (ih _)

theorem stays_sendAll (clock : UInt32) (wall : Rtcp.NtpTime) (packets : List Bytes)
    (deliveries : List Delivery) (m : Media) :
    m.Stays (Delivery.sendAll clock wall packets deliveries m).2 := by
  induction deliveries generalizing m with
  | nil => exact .refl m
  | cons d rest ih =>
    have hone : m.Stays (d.send clock wall packets m).2 :=
      (stays_sendReport clock wall d m).trans (stays_sendPackets packets _)
    exact hone.trans (ih _)

/-- With nobody playing, or for a picture that cannot be cut, nothing happens. -/
theorem feed_eq_self {h : Hub} {picture : Picture}
    (he : h.deliveries = [] ∨ ∃ fault, h.packetizer.packets picture = .error fault)
    (wall : Rtcp.NtpTime) : (h.feed picture wall).2 = h := by
  unfold feed
  split
  · rfl
  · next hd =>
    rcases he with he | ⟨fault, he⟩
    · exact absurd he hd
    · rw [he]

/-- Otherwise the packets go out, and then the deliveries are concluded. -/
theorem feed_eq {h : Hub} {picture : Picture} {packets : List Bytes} (hd : h.deliveries ≠ [])
    (hp : h.packetizer.packets picture = .ok packets) (wall : Rtcp.NtpTime) :
    (h.feed picture wall).2 =
      let clock := Rtp.videoClock picture.time
      let (sent, media) := Delivery.sendAll clock wall packets h.deliveries h.media
      ({ h with media }.conclude sent).2 := by
  unfold feed
  split
  · next he => exact absurd he hd
  · rw [hp]

section Settling

variable (hsettled : ∀ deliveries s, R s (Delivery.settle deliveries s))

include hsettled

theorem changes_conclude (deliveries : List Delivery) :
    Changes R h (h.conclude deliveries).2 :=
  Relation.ReflTransGen.head (.evict h (Delivery.failedFor deliveries) fun _ => false)
    (.single (.revise _ fun s _ => hsettled deliveries s))

theorem changes_feed (picture : Picture) (wall : Rtcp.NtpTime) :
    Changes R h (h.feed picture wall).2 := by
  by_cases hd : h.deliveries = []
  · rw [feed_eq_self (Or.inl hd)]
  · rcases hp : h.packetizer.packets picture with fault | packets
    · rw [feed_eq_self (Or.inr ⟨fault, hp⟩)]
    · -- the packets go out first, and only then do the entries change
      rw [feed_eq hd hp]
      refine Relation.ReflTransGen.head (.media h ?_) (changes_conclude _ hsettled _)
      exact stays_sendAll ..

end Settling

end Operations

/-! ### Runs -/

/-- Answering revises entries within any relation that allows what touching, starting and pausing
do. -/
theorem changes_answer_within {R : Session → Session → Prop} (hR : ∀ s t, R s t → s.Revised t)
    (hrefl : ∀ s, R s s) {h : Hub} (hn : h.Numbered) (c : Client) {r : Request} {now : Nat}
    (hseen : ∀ s, R s { s with lastSeen := now })
    (hstarted : r.method = .play → ∀ s, s.id.isSome →
      R s { s with phase := .playing, stream := { s.stream with reportDue := true } })
    (hpaused : ∀ s, s.id.isSome → R s { s with phase := .ready }) :
    Changes R h (h.answer c r now).2.2 := by
  have htouch : Changes R h (h.touch c.peer now) := changes_touch h hrefl hseen c.peer
  simp only [answer]
  split
  · have hn' := hn.changes (htouch.mono hR)
    exact htouch.trans (changes_dispatch hrefl hn' c hstarted hpaused)
  · exact htouch

/-- Answering leaves the counters of all streams alone. -/
theorem changes_answer {h : Hub} (hn : h.Numbered) (c : Client) (r : Request) (now : Nat) :
    Changes Session.Untouched h (h.answer c r now).2.2 :=
  changes_answer_within (fun _ _ hu => hu.toRevised) .refl hn c Session.untouched_seen
    (fun _ => Session.untouched_started) Session.untouched_paused

/-- **Every operation is a chain of changes**, with revisions that befit its kind. -/
theorem changes_perform_within {h : Hub} (hn : h.Numbered) (o : Operation) :
    Changes o.Revises h (h.perform o).2 := by
  cases o with
  | connect peer outlet now => exact .single (.register h peer outlet now)
  | disconnect conn => exact .single (.evict h _ _)
  | touch peer now => exact changes_touch h (.refl _) .touched peer
  | request client r now =>
    exact changes_answer_within (fun _ _ hr => hr.revised) (.refl _) hn client .heard
      (fun hplay s hid => .startedBy s hplay hid) .pausedBy
  | setUp conn transport => exact .single (.setUp h conn transport)
  | play id => exact changes_play (.refl _) hn .started id
  | pause id => exact changes_pause (.refl _) hn .paused id
  | teardown asking id => exact changes_teardown h asking id
  | closeAll => exact .single (.evict h _ _)
  | feed picture wall => exact changes_feed h .settled picture wall
  | deliver conn frame => exact changes_deliver h conn frame
  | reap now => exact changes_reap h .tallied now
  | reclaim => exact .single (.media h (Media.stays_reclaimAll h.media))
  | incident incident => exact .single (.media h (Media.stays_undergo h.media incident))

/-- Every operation but feeding a picture leaves the counters of all streams alone. -/
theorem changes_perform_of_quiet {h : Hub} (hn : h.Numbered) {o : Operation}
    (ho : o.isQuiet = true) : Changes Session.Untouched h (h.perform o).2 :=
  (changes_perform_within hn o).mono fun _ _ hr => hr.untouched ho

/-- Every operation is a chain of changes. -/
theorem changes_perform {h : Hub} (hn : h.Numbered) (o : Operation) :
    Changes Session.Revised h (h.perform o).2 :=
  (changes_perform_within hn o).mono fun _ _ hr => hr.revised

/-- A run is a chain of changes. -/
theorem changes_run {h : Hub} (hn : h.Numbered) (operations : List Operation) :
    Changes Session.Revised h (h.run operations) := by
  induction operations generalizing h with
  | nil => exact .refl
  | cons o rest ih =>
    have hc := changes_perform hn o
    exact hc.trans (ih (hn.changes hc))

theorem numbered_run {h : Hub} (hn : h.Numbered) (operations : List Operation) :
    (h.run operations).Numbered :=
  hn.changes (changes_run hn operations)

/-- What every change preserves holds after every chain of changes. -/
theorem changes_induction {R : Session → Session → Prop} (hR : ∀ s t, R s t → s.Revised t)
    {P : Hub → Prop} (hP : ∀ {h h' : Hub}, h.Numbered → P h → Change R h h' → P h') {h h' : Hub}
    (hn : h.Numbered) (hp : P h) (hc : Changes R h h') : P h' := by
  induction hc with
  | refl => exact hp
  | tail hpre hstep ih => exact hP (hn.changes (Changes.mono hR hpre)) ih hstep

/-- What every change preserves holds after every run. -/
theorem run_induction {P : Hub → Prop}
    (hP : ∀ {h h' : Hub}, h.Numbered → P h → Change Session.Revised h h' → P h') {h : Hub}
    (hn : h.Numbered) (hp : P h) (operations : List Operation) : P (h.run operations) :=
  changes_induction (fun _ _ hr => hr) hP hn hp (changes_run hn operations)

/-- No change touches what the owner has chosen. -/
theorem Change.choices {R : Session → Session → Prop} {h h' : Hub} (hc : Change R h h') :
    h'.settings = h.settings ∧ h'.authenticator = h.authenticator := by
  cases hc with
  | setUp conn transport =>
    rcases h.setUp_cases conn transport with ⟨_, _, e⟩ | ⟨_, _, _, _, e⟩ | ⟨_, _, _, _, e⟩ <;>
      exact e ▸ ⟨rfl, rfl⟩
  | _ => exact ⟨rfl, rfl⟩

/-- The settings and the way to ask for credentials are the same all the time. -/
theorem choices_run {h : Hub} (hn : h.Numbered) (operations : List Operation) :
    (h.run operations).settings = h.settings ∧
      (h.run operations).authenticator = h.authenticator :=
  run_induction (P := fun h' => h'.settings = h.settings ∧ h'.authenticator = h.authenticator)
    (fun _ hp hc => ⟨hc.choices.1.trans hp.1, hc.choices.2.trans hp.2⟩) hn ⟨rfl, rfl⟩ operations

/-- A hub without connections keeps them apart. -/
theorem numbered_opened (settings : Settings) (authenticator : Option Authenticator)
    (packetizer : Jpeg.Packetizer) (entropy : Entropy) (ports : PortPool)
    (linkFault : Option Text) :
    (opened settings authenticator packetizer entropy ports linkFault).Numbered :=
  ⟨List.nodup_nil, fun _ hs => absurd hs List.not_mem_nil⟩

end Hub

end RtspServer
