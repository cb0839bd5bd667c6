/-
RtspServer/Proofs/Keepalive.lean

Who is taken to be there, and who is closed for being silent.  An entry notes
when its peer was last heard.  Requests are heard, of any verb and whether they
may pass or not, and so is `Hub.touch`; all other operations leave the note
alone (`Hub.lastSeen_perform`).  A peer is heard for all its connections.

`Hub.reap` closes the entries whose note is too old, except those that run on
their control connection, and changes nothing of the others but the count of
reports that have come in (`Hub.Numbered.reap`).
-/
import RtspServer.Proofs.Emptying
import RtspServer.Proofs.Isolation

namespace RtspServer

/-- When a peer is heard by an operation, if it is. -/
def Operation.heard? (peer : SocketAddress) : Operation → Option Nat
  | .touch other now => if other = peer then some now else none
  | .request client _ now => if client.peer = peer then some now else none
  | _ => none

/-- When an operation happens, as far as the hub is told. -/
def Operation.time? : Operation → Option Nat
  | .connect _ _ now | .touch _ now | .request _ _ now | .reap now => some now
  | _ => none

theorem Operation.time?_of_heard? {peer : SocketAddress} {o : Operation} {now : Nat}
    (ho : o.heard? peer = some now) : o.time? = some now := by
  cases o with
  | touch other time | request client r time =>
    simp only [heard?] at ho
    split at ho
    · exact ho
    · cases ho
  | _ => cases ho

/-- The times at which a peer is heard are among those at which something happens. -/
theorem Operation.sublist_heard (peer : SocketAddress) (operations : List Operation) :
    (operations.filterMap (heard? peer)).Sublist (operations.filterMap time?) := by
  induction operations with
  | nil => exact List.Sublist.slnil
  | cons o rest ih =>
    rcases ho : o.heard? peer with - | now
    · rw [List.filterMap_cons_none ho]
      rcases ht : o.time? with - | now
      · rwa [List.filterMap_cons_none ht]
      · rw [List.filterMap_cons_some ht]
        exact ih.cons now
    · rw [List.filterMap_cons_some ho, List.filterMap_cons_some (time?_of_heard? ho)]
      exact ih.cons_cons now

/-- A revision that leaves the peer and the time when it was last heard alone. -/
structure Session.Unheard (s t : Session) : Prop extends s.Revised t where
  lastSeen : t.lastSeen = s.lastSeen

namespace Session

theorem Unheard.refl (s : Session) : s.Unheard s := ⟨.refl s, rfl⟩

theorem unheard_started (s : Session) (hid : s.id.isSome) :
    s.Unheard { s with phase := .playing, stream := { s.stream with reportDue := true } } :=
  ⟨(untouched_started s hid).toRevised, rfl⟩

theorem unheard_paused (s : Session) (hid : s.id.isSome) : s.Unheard { s with phase := .ready } :=
  ⟨(untouched_paused s hid).toRevised, rfl⟩

end Session

/-- An operation that nobody is heard by leaves the note alone. -/
theorem Operation.Revises.unheard {o : Operation} (ho : ∀ peer, o.heard? peer = none)
    {s t : Session} (hr : o.Revises s t) : s.Unheard t := by
  refine ⟨hr.revised, ?_⟩
  cases hr with
  | @touched peer => exact absurd (ho peer) (by simp [heard?])
  | @heard client => exact absurd (ho client.peer) (by simp [heard?])
  | settled deliveries =>
    unfold Delivery.settle
    split <;> rfl
  | _ => rfl

namespace Hub

/-! ### When a peer was last heard -/

theorem Changes.unheard {h h' : Hub} (hn : h.Numbered) (hc : Changes Session.Unheard h h')
    {t : Session} (ht : t ∈ h'.sessions) (hold : t.conn < h.nextConn) :
    ∃ s ∈ h.sessions, s.conn = t.conn ∧ t.peer = s.peer ∧ t.lastSeen = s.lastSeen :=
  hc.origin (Q := fun s t => t.peer = s.peer ∧ t.lastSeen = s.lastSeen)
    (fun _ _ h => h.toRevised) .refl (fun _ _ h => ⟨h.peer, h.lastSeen⟩) (fun _ _ _ => ⟨rfl, rfl⟩)
    (fun hab hbc => ⟨hbc.1.trans hab.1, hbc.2.trans hab.2⟩) hn ht hold

theorem lastSeen_touch {h : Hub} {peer : SocketAddress} {now : Nat} {t : Session}
    (ht : t ∈ (h.touch peer now).sessions) :
    ∃ s ∈ h.sessions, s.conn = t.conn ∧ t.peer = s.peer ∧
      t.lastSeen = ((Operation.touch peer now).heard? s.peer).getD s.lastSeen := by
  obtain ⟨s, hs, rfl⟩ := List.mem_map.mp ht
  refine ⟨s, hs, ?_⟩
  by_cases hpeer : s.peer = peer
  · simp [hpeer, Operation.heard?]
  · simp [hpeer, Operation.heard?, Ne.symm hpeer]

/-- **An entry notes when its peer is heard**, and nothing else changes the note. -/
theorem lastSeen_perform {h : Hub} (hn : h.Numbered) (o : Operation) {t : Session}
    (ht : t ∈ (h.perform o).2.sessions) (hold : t.conn < h.nextConn) :
    ∃ s ∈ h.sessions, s.conn = t.conn ∧ t.peer = s.peer ∧
      t.lastSeen = (o.heard? s.peer).getD s.lastSeen := by
  by_cases hnone : ∀ peer, o.heard? peer = none
  · have hkept : Changes Session.Unheard h (h.perform o).2 :=
      (changes_perform_within hn o).mono fun _ _ hr => hr.unheard hnone
    obtain ⟨s, hs, hconn, hpeer, hsame⟩ := hkept.unheard hn ht hold
    exact ⟨s, hs, hconn, hpeer, by rw [hnone, hsame]; rfl⟩
  cases o with
  | touch peer now => exact lastSeen_touch ht
  | request client r now =>
    have htouch : (h.touch client.peer now).Numbered :=
      hn.changes ((changes_touch h .refl Session.untouched_seen client.peer).mono
        fun _ _ hu => hu.toRevised)
    have hanswer : Changes Session.Unheard (h.touch client.peer now)
        (h.answer client r now).2.2 := by
      simp only [answer]
      split
      · exact changes_dispatch .refl htouch client (fun _ => Session.unheard_started)
          Session.unheard_paused
      · exact .refl
    obtain ⟨u, hu, huconn, hupeer, husame⟩ := hanswer.unheard htouch ht hold
    obtain ⟨s, hs, hconn, hpeer, hsame⟩ := lastSeen_touch hu
    exact ⟨s, hs, hconn.trans huconn, hupeer.trans hpeer, husame.trans hsame⟩
  | _ => exact absurd (fun _ => rfl) hnone

/-- The entry of a connection, if it lives, belongs to a peer and notes the last of some times. -/
structure Heard (conn : ConnId) (peer : SocketAddress) (times : List Nat) (h : Hub) : Prop where
  below : conn < h.nextConn
  living : ∀ t ∈ h.sessions, t.conn = conn → t.peer = peer ∧ times.getLast? = some t.lastSeen

theorem Heard.perform {conn : ConnId} {peer : SocketAddress} {times : List Nat} {h : Hub}
    (hn : h.Numbered) (hh : Heard conn peer times h) (o : Operation) :
    Heard conn peer (times ++ (o.heard? peer).toList) (h.perform o).2 := by
  refine ⟨Nat.lt_of_lt_of_le hh.below (Changes.nextConn_le (changes_perform hn o)),
    fun t ht hconn => ?_⟩
  obtain ⟨s, hs, hsconn, hpeer, hsame⟩ := lastSeen_perform hn o ht (hconn ▸ hh.below)
  obtain ⟨hspeer, hlast⟩ := hh.living s hs (hsconn.trans hconn)
  rw [hspeer] at hpeer hsame
  refine ⟨hpeer, ?_⟩
  rcases ho : o.heard? peer with - | now <;> rw [ho] at hsame
  · rw [Option.toList_none, List.append_nil, hlast, hsame]
    rfl
  · rw [Option.toList_some, List.getLast?_concat, hsame]
    rfl

theorem Heard.run {conn : ConnId} {peer : SocketAddress} {times : List Nat} {h : Hub}
    (hn : h.Numbered) (hh : Heard conn peer times h) (operations : List Operation) :
    Heard conn peer (times ++ operations.filterMap (Operation.heard? peer))
      (h.run operations) := by
  induction operations generalizing times h with
  | nil =>
    rw [List.filterMap_nil, List.append_nil]
    exact hh
  | cons o rest ih =>
    have hall : times ++ (o :: rest).filterMap (Operation.heard? peer) =
        (times ++ (o.heard? peer).toList) ++ rest.filterMap (Operation.heard? peer) := by
      rcases ho : o.heard? peer with - | now <;> simp [ho]
    rw [hall]
    exact ih (numbered_run hn [o]) (hh.perform hn o)

theorem heard_register {h : Hub} (hn : h.Numbered) (peer : SocketAddress) (outlet : Outlet)
    (now : Nat) : Heard h.nextConn peer [now] (h.register peer outlet now).2 := by
  refine ⟨Nat.lt_succ_self _, fun t ht hconn => ?_⟩
  rcases List.mem_append.mp ht with ht | ht
  · exact absurd hconn (Nat.ne_of_lt (hn.below t ht))
  · rw [List.mem_singleton.mp ht]
    exact ⟨rfl, rfl⟩

/-- The last of times that go up is the latest. -/
theorem le_of_getLast? {times : List Nat} (hclock : times.Pairwise (· ≤ ·)) {last : Nat}
    (hlast : times.getLast? = some last) : ∀ x ∈ times, x ≤ last := by
  obtain ⟨rest, rfl⟩ := List.getLast?_eq_some_iff.mp hlast
  intro x hx
  rcases List.mem_append.mp hx with hx | hx
  · exact (List.pairwise_append.mp hclock).2.2 x hx last (List.mem_singleton.mpr rfl)
  · exact Nat.le_of_eq (List.mem_singleton.mp hx)

/-! ### Closing who is silent -/

/-- Has an entry been silent for too long, and does it not run on its control connection? -/
def Overdue (h : Hub) (now : Nat) (s : Session) : Prop :=
  s.stream.transport.bind h.media.kind? ≠ some .interleaved ∧
    h.settings.timeout < now - s.lastSeen

instance (h : Hub) (now : Nat) (s : Session) : Decidable (h.Overdue now s) :=
  inferInstanceAs (Decidable (_ ∧ _))

/-- An entry with the reports counted that wait for it. -/
def tallied (m : Media) (s : Session) : Session :=
  { s with stream := { s.stream with
      rtcpReceived := s.stream.rtcpReceived + pendingReports m s } }

theorem kind?_emptyInboxes (m : Media) (sessions : List Session) :
    (sessions.foldl emptyInbox m).kind? = m.kind? := by
  induction sessions generalizing m with
  | nil => rfl
  | cons s rest ih =>
    rw [List.foldl_cons, ih]
    unfold emptyInbox
    split
    · exact m.kind?_clearInbox _
    · rfl

/-- What is counted first does not change who is silent. -/
theorem isIdle_drain (h : Hub) (now : Nat) (s : Session) :
    h.drain.isIdle now (tallied h.media s) = decide (h.Overdue now s) := by
  have hkind : h.drain.media.kind? = h.media.kind? := kind?_emptyInboxes h.media h.sessions
  have hsettings : h.drain.settings = h.settings := rfl
  rw [Bool.eq_iff_iff, decide_eq_true_iff]
  simp [isIdle, isInterleaved, hkind, hsettings, Overdue, tallied]

/-- The entries after the silent ones have been closed. -/
theorem sessions_reap (h : Hub) (now : Nat) :
    (h.reap now).2.sessions =
      (h.sessions.filter fun s => !decide (h.Overdue now s)).map (tallied h.media) := by
  show ((h.sessions.map (tallied h.media)).filter fun s => !h.drain.isIdle now s) = _
  rw [List.filter_map]
  congr 2
  funext s
  exact congrArg (!·) (isIdle_drain h now s)

/-- **Who is silent goes, and nobody else does.**  The others have what has come in counted. -/
theorem Numbered.reap {h : Hub} (hn : h.Numbered) (now : Nat) {s : Session}
    (hs : s ∈ h.sessions) :
    Hub.entry? (h.reap now).2 s.conn =
      if h.Overdue now s then none else some (tallied h.media s) := by
  have hn' : (h.reap now).2.Numbered :=
    hn.changes (changes_reap h (fun s n => (Session.untouched_tallied s n).toRevised) now)
  split
  · next hoverdue =>
    refine List.find?_eq_none.mpr fun t ht hconn => ?_
    rw [sessions_reap] at ht
    obtain ⟨u, hu, rfl⟩ := List.mem_map.mp ht
    obtain ⟨hmem, hkept⟩ := List.mem_filter.mp hu
    rw [hn.eq_of_conn hmem hs (eq_of_beq hconn)] at hkept
    simp [hoverdue] at hkept
  · next hkept =>
    refine hn'.entry?_conn (s := tallied h.media s) ?_
    rw [sessions_reap]
    exact List.mem_map_of_mem (List.mem_filter.mpr ⟨hs, by simp [hkept]⟩)

/-- The report of `Hub.reap` counts what is left and what has gone. -/
theorem Coherent.report_reap {h : Hub} (hn : h.Numbered) (hh : h.Coherent) (now : Nat) :
    (h.reap now).1 = ⟨(h.reap now).2.sessionCount, (h.reap now).2.playingCount,
      (h.sessions.filter fun s => decide (h.Overdue now s)).length⟩ := by
  have hh' : (h.reap now).2.Coherent := changes_induction (fun _ _ hr => hr)
    (fun hn hp hc => hp.change hn hc) hn hh
    (changes_reap h (fun s n => (Session.untouched_tallied s n).toRevised) now)
  have hplaying : (h.reap now).1.playing = (h.reap now).2.playingCount := by
    refine List.countP_congr fun s hs => ?_
    have hsetup := (hh' s hs).isSetUp_of_isPlaying
    simp only [Bool.and_eq_true]
    exact and_iff_right_of_imp hsetup
  have hremoved : (h.reap now).1.removed =
      (h.sessions.filter fun s => decide (h.Overdue now s)).length := by
    show (((h.sessions.map (tallied h.media)).filter (h.drain.isIdle now)).map _).length = _
    rw [List.length_map, List.filter_map, List.length_map]
    congr 2
    funext s
    exact isIdle_drain h now s
  rw [← hplaying, ← hremoved]
  rfl

/-! ### After any run -/

section Opened

variable (settings : Settings) (authenticator : Option Authenticator)
  (packetizer : Jpeg.Packetizer) (entropy : Entropy) (ports : PortPool) (linkFault : Option Text)

/-- **Keepalive.**  Let a connection be registered after any run of a hub that was opened without
connections, and let any run follow.

* The entry, if it lives, notes when its peer was last heard, or else when it was registered; if
  the clock does not go back, that is the latest of these times.
* Whatever operation comes next, an entry notes it if its peer is heard by it, and otherwise keeps
  the note it has.
* Whenever the silent are closed, those entries go that do not run on their control connection and
  whose note is older than the timeout, set up or not; the others have the reports counted that
  wait for them and are otherwise as they were.  The report has the number of those that are gone,
  and of the sessions that are left and of those that play.
* An entry is not closed for being silent while it runs on its control connection, nor if its peer
  was heard, or the entry registered, within the timeout before, as long as the clock does not go
  back. -/
theorem keepalive (before after : List Operation) (peer : SocketAddress) (outlet : Outlet)
    (now : Nat) :
    let start := (opened settings authenticator packetizer entropy ports linkFault).run before
    let conn := (start.register peer outlet now).1.conn
    let registered := (start.register peer outlet now).2
    let heard := fun operations : List Operation =>
      now :: operations.filterMap (Operation.heard? peer)
    let h := registered.run after
    (∀ t ∈ h.sessions, t.conn = conn → t.peer = peer ∧ (heard after).getLast? = some t.lastSeen ∧
      ((now :: after.filterMap Operation.time?).Pairwise (· ≤ ·) →
        ∀ x ∈ heard after, x ≤ t.lastSeen)) ∧
    (∀ o, ∀ s ∈ h.sessions, ∀ t ∈ (h.perform o).2.sessions, t.conn = s.conn →
      t.peer = s.peer ∧ t.lastSeen = (o.heard? s.peer).getD s.lastSeen) ∧
    (∀ time, let reaped := h.reap time
      (∀ s ∈ h.sessions, Hub.entry? reaped.2 s.conn =
        if s.stream.transport.bind h.media.kind? ≠ some .interleaved ∧
            settings.timeout < time - s.lastSeen then none
        else some { s with stream := { s.stream with
          rtcpReceived := s.stream.rtcpReceived + pendingReports h.media s } }) ∧
      (∀ t ∈ reaped.2.sessions, ∃ s ∈ h.sessions, t.conn = s.conn) ∧
      reaped.1 = ⟨reaped.2.sessionCount, reaped.2.playingCount,
        (h.sessions.filter fun s =>
          decide (s.stream.transport.bind h.media.kind? ≠ some .interleaved ∧
            settings.timeout < time - s.lastSeen)).length⟩) ∧
    ∀ pre time post, after = pre ++ .reap time :: post →
      ∀ s ∈ (registered.run pre).sessions, s.conn = conn →
        (s.stream.transport.bind (registered.run pre).media.kind? = some .interleaved ∨
          ((now :: after.filterMap Operation.time?).Pairwise (· ≤ ·) ∧
            ∃ x ∈ heard pre, time ≤ x + settings.timeout)) →
        Hub.entry? (registered.run (pre ++ [.reap time])) conn ≠ none := by
  intro start conn registered heard h
  have hn₀ := numbered_opened settings authenticator packetizer entropy ports linkFault
  have hstart : start.Numbered := numbered_run hn₀ before
  have hregistered : registered.Numbered := numbered_run hstart [.connect peer outlet now]
  have hn : ∀ operations, (registered.run operations).Numbered := numbered_run hregistered
  have hcoherent : h.Coherent :=
    (((coherent_opened settings authenticator packetizer entropy ports linkFault).run hn₀
      before).run hstart [.connect peer outlet now]).run hregistered after
  have hsettings : ∀ operations, (registered.run operations).settings = settings :=
    fun operations =>
      (choices_run hregistered operations).1.trans (choices_run hn₀ before).1
  have hheard : ∀ operations, Heard conn peer (heard operations) (registered.run operations) :=
    (heard_register hstart peer outlet now).run hregistered
  -- what is heard is heard at times that go up with the clock
  have hlatest : ∀ operations, (now :: operations.filterMap Operation.time?).Pairwise (· ≤ ·) →
      ∀ t ∈ (registered.run operations).sessions, t.conn = conn →
        ∀ x ∈ heard operations, x ≤ t.lastSeen := fun operations hclock t ht hconn =>
    le_of_getLast? (hclock.sublist ((Operation.sublist_heard peer operations).cons_cons now))
      ((hheard operations).living t ht hconn).2
  refine ⟨fun t ht hconn => ?_, fun o s hs t ht hconn => ?_, fun time => ⟨?_, ?_, ?_⟩, ?_⟩
  · obtain ⟨hpeer, hlast⟩ := (hheard after).living t ht hconn
    exact ⟨hpeer, hlast, fun hclock => hlatest after hclock t ht hconn⟩
  · obtain ⟨u, hu, huconn, hpeer, hsame⟩ :=
      lastSeen_perform (hn after) o ht (hconn ▸ (hn after).below s hs)
    rw [(hn after).eq_of_conn hu hs (huconn.trans hconn)] at hpeer hsame
    exact ⟨hpeer, hsame⟩
  · intro s hs
    rw [(hn after).reap time hs, ← hsettings after]
    rfl
  · intro t ht
    rw [sessions_reap] at ht
    obtain ⟨s, hs, rfl⟩ := List.mem_map.mp ht
    exact ⟨s, (List.mem_filter.mp hs).1, rfl⟩
  · rw [hcoherent.report_reap (hn after) time, ← hsettings after]
    rfl
  · rintro pre time post rfl s hs hconn hlive
    have hrun : registered.run (pre ++ [.reap time]) = ((registered.run pre).reap time).2 :=
      List.foldl_append
    rw [hrun, ← hconn, (hn pre).reap time hs, if_neg]
    · exact nofun
    · rintro ⟨hother, hsilent⟩
      rcases hlive with hinterleaved | ⟨hclock, x, hx, htime⟩
      · exact hother hinterleaved
      · have hpre : (now :: pre.filterMap Operation.time?).Pairwise (· ≤ ·) := by
          rw [List.filterMap_append] at hclock
          exact hclock.sublist ((List.sublist_append_left _ _).cons_cons now)
        have hseen := hlatest pre hpre s hs hconn x hx
        rw [hsettings] at hsilent
        omega

end Opened

end Hub

end RtspServer
