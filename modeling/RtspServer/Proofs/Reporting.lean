/-
RtspServer/Proofs/Reporting.lean

When sender reports go out, and what they say.  The history of a connection is
made of the PLAYs that succeed for it and of the writes that are attempted
(`Event`).  A report is due if a PLAY has succeeded and no report has been taken
since (`Event.ReportDue`).

An entry carries this as a flag through everything that happens to it
(`Hub.Reported`).  PLAY sets the flag, a picture clears it if the transport takes
the report, and nothing else touches it.  The counts in a report are those of
the packets that were sent for the entry before (`Hub.Streamed`), all of which
were taken, because an entry whose transport refuses a packet is closed.
-/
import RtspServer.Proofs.Attempt
import RtspServer.Proofs.Isolation

namespace RtspServer

/-- A revision that leaves it alone whether a report is due. -/
structure Session.Unprompted (s t : Session) : Prop extends s.Revised t where
  reportDue : t.stream.reportDue = s.stream.reportDue

theorem Session.Unprompted.refl (s : Session) : s.Unprompted s := ⟨.refl s, rfl⟩

/-- Only feeding a picture and starting delivery touch the flag. -/
theorem Operation.Revises.unprompted {o : Operation} (ho : o.isQuiet = true)
    (hplay : ∀ id, o ≠ .play id) (hrequest : ∀ client r now, o ≠ .request client r now)
    {s t : Session} (hr : o.Revises s t) : s.Unprompted t := by
  refine ⟨hr.revised, ?_⟩
  cases hr with
  | started => exact absurd rfl (hplay _)
  | startedBy => exact absurd rfl (hrequest _ _ _)
  | settled => cases ho
  | _ => rfl

/-- What matters to the sender reports of a connection. -/
inductive Event where
  /-- A PLAY has succeeded. -/
  | played
  | attempted (a : Attempt)
  deriving DecidableEq, Repr

namespace Event

/-- The attempts in a history. -/
def attempts : List Event → List Attempt
  | [] => []
  | .played :: rest => attempts rest
  | .attempted a :: rest => a :: attempts rest

/-- A PLAY has succeeded, and no report has been taken since. -/
def ReportDue (l : List Event) : Prop :=
  ∃ before after, l = before ++ .played :: after ∧ Attempt.NoReport (attempts after)

theorem attempts_append (l l' : List Event) : attempts (l ++ l') = attempts l ++ attempts l' := by
  induction l with
  | nil => rfl
  | cons e rest ih => cases e <;> simp [attempts, ih]

@[simp] theorem attempts_attempted (l : List Attempt) : attempts (l.map .attempted) = l := by
  induction l with
  | nil => rfl
  | cons a rest ih => rw [List.map_cons, attempts, ih]

theorem reportDue_played (l : List Event) : ReportDue (l ++ [.played]) :=
  ⟨l, [], rfl, fun _ ha => absurd ha List.not_mem_nil⟩

/-- A report that is due stays due if none is taken. -/
theorem ReportDue.append {l l' : List Event} (hl : ReportDue l)
    (hnone : Attempt.NoReport (attempts l')) : ReportDue (l ++ l') := by
  obtain ⟨before, after, rfl, hafter⟩ := hl
  refine ⟨before, after ++ l', by simp, fun a ha => ?_⟩
  rw [attempts_append] at ha
  exact (List.mem_append.mp ha).elim (hafter a) (hnone a)

/-- What follows in a history without another PLAY keeps a report due only if it takes none. -/
theorem reportDue_append {l l' : List Event} (hplayed : .played ∉ l') :
    ReportDue (l ++ l') ↔ ReportDue l ∧ Attempt.NoReport (attempts l') := by
  constructor
  · rintro ⟨before, after, hl, hnone⟩
    rcases List.append_eq_append_iff.mp hl with ⟨k, -, hk⟩ | ⟨k, hk, hafter⟩
    · exact absurd (hk ▸ List.mem_append_right k List.mem_cons_self) hplayed
    · rcases k with - | ⟨e, k⟩
      · exact absurd ((show .played :: after = l' from hafter) ▸ List.mem_cons_self) hplayed
      · -- the PLAY is in the first part
        obtain ⟨rfl, hsplit⟩ := List.cons.inj hafter
        rw [show after = k ++ l' from hsplit, attempts_append] at hnone
        exact ⟨⟨before, k, hk, fun a ha => hnone a (List.mem_append_left _ ha)⟩,
          fun a ha => hnone a (List.mem_append_right _ ha)⟩
  · exact fun h => h.1.append h.2

end Event

namespace Hub

/-! ### The history of a connection -/

/-- Does an operation start delivery on a connection?  A request does if it is a PLAY for the
session of the connection and is answered with 200. -/
def plays (h : Hub) (conn : ConnId) : Operation → Bool
  | .play id => (h.play id).1.isOk && (h.session? id).any (·.conn == conn)
  | .request client request now =>
    request.method == .play && (h.answer client request now).1.status == 200 &&
      (request.sessionId?.bind h.session?).any (·.conn == conn)
  | _ => false

/-- What an operation adds to the history of a connection. -/
def eventsBy (h : Hub) (conn : ConnId) (o : Operation) : List Event :=
  (if h.plays conn o then [.played] else []) ++ (h.attemptedBy conn o).map .attempted

/-- The history of a connection while operations happen one after the other. -/
def events (h : Hub) (conn : ConnId) : List Operation → List Event
  | [] => []
  | o :: rest => h.eventsBy conn o ++ (h.perform o).2.events conn rest

theorem events_append (h : Hub) (conn : ConnId) (before after : List Operation) :
    h.events conn (before ++ after) =
      h.events conn before ++ (h.run before).events conn after := by
  induction before generalizing h with
  | nil => rfl
  | cons o rest ih =>
    rw [List.cons_append, events, ih, events, List.append_assoc]
    rfl

/-! ### What operations other than feeding do to the flag -/

theorem Changes.unprompted {h h' : Hub} (hn : h.Numbered)
    (hc : Changes Session.Unprompted h h') {t : Session} (ht : t ∈ h'.sessions)
    (hold : t.conn < h.nextConn) :
    ∃ s ∈ h.sessions, s.conn = t.conn ∧ t.stream.reportDue = s.stream.reportDue :=
  hc.origin (Q := fun s t => t.stream.reportDue = s.stream.reportDue) (fun _ _ h => h.toRevised)
    .refl (fun _ _ h => h.reportDue) (fun _ _ _ => rfl) (fun hab hbc => hbc.trans hab) hn ht hold

theorem changes_touch_unprompted (h : Hub) (peer : SocketAddress) (now : Nat) :
    Changes Session.Unprompted h (h.touch peer now) :=
  changes_touch h .refl (fun s => ⟨(Session.untouched_seen s).toRevised, rfl⟩) peer

theorem reportDue_play {h : Hub} (id : Text) {t : Session} (ht : t ∈ (h.play id).2.sessions) :
    ∃ s ∈ h.sessions, s.conn = t.conn ∧
      (t.stream.reportDue = true ↔
        s.stream.reportDue = true ∨ h.plays s.conn (.play id) = true) := by
  rcases h.play_cases id with ⟨_, e⟩ | ⟨s, hs, -, e⟩ <;> rw [e] at ht
  · exact ⟨t, ht, rfl, by simp [plays, e, Except.isOk, Except.toBool]⟩
  · obtain ⟨u, hu, rfl⟩ := List.mem_map.mp ht
    refine ⟨u, hu, ?_⟩
    by_cases hconn : u.conn = s.conn
    · simp [hconn, plays, e, hs, Except.isOk, Except.toBool]
    · simp [hconn, plays, hs, Ne.symm hconn]

/-- The session with an id is the same after its peer has been noted. -/
theorem any_session?_touch (h : Hub) (peer : SocketAddress) (now : Nat) (id : Text)
    (conn : ConnId) :
    ((h.touch peer now).session? id).any (·.conn == conn) =
      (h.session? id).any (·.conn == conn) := by
  rw [session?_touch]
  rcases h.session? id with - | s
  · rfl
  · simp only [Option.map_some, Option.any_some, (untouched_seen peer now s).conn]

theorem reportDue_answer {h : Hub} (hn : h.Numbered) (c : Client) (r : Request) (now : Nat)
    {t : Session} (ht : t ∈ (h.answer c r now).2.2.sessions) (hold : t.conn < h.nextConn) :
    ∃ s ∈ h.sessions, s.conn = t.conn ∧
      (t.stream.reportDue = true ↔
        s.stream.reportDue = true ∨ h.plays s.conn (.request c r now) = true) := by
  have htouch := changes_touch_unprompted h c.peer now
  have hn' : (h.touch c.peer now).Numbered := hn.changes (htouch.mono fun _ _ h => h.toRevised)
  by_cases hauth : h.isAuthorized r = true
  · have e := answer_of_passed hauth c now
    by_cases hmethod : r.method = .play
    · have hcases := (h.touch c.peer now).dispatch_cases c r
      simp only [plays, e] at ht ⊢
      generalize ((h.touch c.peer now).dispatch c r).1 = response,
        ((h.touch c.peer now).dispatch c r).2.2 = h' at hcases ht ⊢
      cases hcases with
      | idle hne => exact absurd hmethod hne
      | bound hne | paused hne | tornDown hne => exact absurd (hmethod.symm.trans hne) nofun
      | @played id number _ hid hplay hstatus =>
        obtain ⟨u, hu, huconn, hdue⟩ := reportDue_play id ht
        obtain ⟨s, hs, hsconn, hsame⟩ := htouch.unprompted hn hu (huconn ▸ hold)
        refine ⟨s, hs, hsconn.trans huconn, ?_⟩
        rw [hdue, hsame, hsconn]
        have hfound := h.any_session?_touch c.peer now id u.conn
        simp [plays, hplay, hfound, hmethod, hstatus, hid, Except.isOk, Except.toBool]
      | unplayed _ _ hstatus =>
        obtain ⟨s, hs, hsconn, hsame⟩ := htouch.unprompted hn ht hold
        exact ⟨s, hs, hsconn, by simp [hsame, hstatus]⟩
    · -- another verb
      have hdispatch : Changes Session.Unprompted (h.touch c.peer now)
          ((h.touch c.peer now).dispatch c r).2.2 :=
        changes_dispatch .refl hn' c (fun hplay => absurd hplay hmethod)
          fun s hid => ⟨(Session.untouched_paused s hid).toRevised, rfl⟩
      rw [e] at ht
      obtain ⟨s, hs, hsconn, hsame⟩ := Changes.unprompted hn (htouch.trans hdispatch) ht hold
      exact ⟨s, hs, hsconn, by simp [hsame, plays, hmethod]⟩
  · have e : (h.answer c r now).2.2 = h.touch c.peer now ∧ (h.answer c r now).1.status = 401 := by
      rw [answer_of_refused hauth]
      exact ⟨rfl, rfl⟩
    rw [e.1] at ht
    obtain ⟨s, hs, hsconn, hsame⟩ := htouch.unprompted hn ht hold
    exact ⟨s, hs, hsconn, by simp [hsame, plays, e.2]⟩

/-- A report is due after an operation other than feeding if it was due before or the operation
starts delivery. -/
theorem reportDue_perform {h : Hub} (hn : h.Numbered) {o : Operation} (ho : o.isQuiet = true)
    {t : Session} (ht : t ∈ (h.perform o).2.sessions) (hold : t.conn < h.nextConn) :
    ∃ s ∈ h.sessions, s.conn = t.conn ∧
      (t.stream.reportDue = true ↔ s.stream.reportDue = true ∨ h.plays s.conn o = true) := by
  -- all but PLAY, as an operation or as a request, leave the flag alone
  have hkept (hplay : ∀ id, o ≠ .play id) (hrequest : ∀ client r now, o ≠ .request client r now)
      (hnone : ∀ conn, h.plays conn o = false) : ∃ s ∈ h.sessions, s.conn = t.conn ∧
        (t.stream.reportDue = true ↔ s.stream.reportDue = true ∨ h.plays s.conn o = true) := by
    have hc : Changes Session.Unprompted h (h.perform o).2 :=
      (changes_perform_within hn o).mono fun _ _ hr => hr.unprompted ho hplay hrequest
    obtain ⟨s, hs, hconn, hsame⟩ := hc.unprompted hn ht hold
    exact ⟨s, hs, hconn, by simp [hsame, hnone]⟩
  cases o with
  | feed picture wall => cases ho
  | play id => exact reportDue_play id ht
  | request client request now => exact reportDue_answer hn client request now ht hold
  | _ => exact hkept (fun _ => nofun) (fun _ _ _ => nofun) fun _ => rfl

/-! ### What feeding does -/

/-- What has become of an entry by some attempts.  It has gone if one of its packets was refused,
whatever has become of its report; a report that was refused stays due. -/
structure Settled (s : Session) (attempts : List Attempt) (after : Hub) : Prop where
  gone : after.entry? s.conn = none ↔ ¬Attempt.AllPackets attempts
  kept : ∀ t ∈ after.sessions, t.conn = s.conn → Attempt.AllPackets attempts ∧
    (t.stream.reportDue = true ↔ s.stream.reportDue = true ∧ Attempt.NoReport attempts)

/-- An entry that nothing was attempted for is as it was. -/
theorem Settled.of_entry {after : Hub} (hn : after.Numbered) {s : Session}
    (h : after.entry? s.conn = some s) : Settled s [] after := by
  obtain ⟨hmem, -⟩ := mem_of_entry_eq h
  refine ⟨by simp [h, Attempt.AllPackets], fun t ht hconn => ?_⟩
  rw [hn.eq_of_conn ht hmem hconn]
  simp [Attempt.AllPackets, Attempt.NoReport]

/-- An entry that is delivered to has gone or has been revised. -/
theorem Settled.of_ite {after : Hub} (hn : after.Numbered) {s u : Session} {failed : Bool}
    {attempts : List Attempt} (h : after.entry? s.conn = if failed then none else some u)
    (hfailed : failed = true ↔ ¬Attempt.AllPackets attempts)
    (hdue : u.stream.reportDue = true ↔
      s.stream.reportDue = true ∧ Attempt.NoReport attempts) : Settled s attempts after := by
  refine ⟨?_, fun t ht hconn => ?_⟩
  · rw [h, ← hfailed]
    cases failed <;> simp
  · have hfound := hn.entry?_conn ht
    rw [hconn, h] at hfound
    split at hfound
    · cases hfound
    · next hkept =>
      refine ⟨by_contra fun hnot => hkept (hfailed.mpr hnot), ?_⟩
      rw [← Option.some.inj hfound]
      exact hdue

/-- **What becomes of an entry when a picture is sent** is told by what is attempted for it. -/
theorem Owned.settled_feed {h : Hub} (hn : h.Numbered) (hh : h.Owned) {s : Session}
    (hs : s ∈ h.sessions) (picture : Picture) (wall : Rtcp.NtpTime) :
    Settled s (h.attemptedBy s.conn (.feed picture wall)) (h.feed picture wall).2 := by
  have hn' : (h.feed picture wall).2.Numbered :=
    hn.changes (changes_feed h Session.revised_settle picture wall)
  have hnothing : h.attemptedBy s.conn (.feed picture wall) = [] →
      Hub.entry? (h.feed picture wall).2 s.conn = some s →
      Settled s (h.attemptedBy s.conn (.feed picture wall)) (h.feed picture wall).2 := by
    intro hnone hentry
    rw [hnone]
    exact .of_entry hn' hentry
  rcases hp : h.packetizer.packets picture with fault | packets
  · refine hnothing (by simp only [attemptedBy, hp]) ?_
    rw [feed_eq_self (Or.inr ⟨fault, hp⟩)]
    exact hn.entry?_conn hs
  by_cases hd : h.deliveries = []
  · refine hnothing ?_ ?_
    · simp only [attemptedBy, hp, hd]
      rfl
    · rw [feed_eq_self (Or.inl hd)]
      exact hn.entry?_conn hs
  have hattempts : h.attemptedBy s.conn (.feed picture wall) = Delivery.attemptedTo
      (Rtp.videoClock picture.time) wall packets s.conn h.deliveries h.media := by
    simp only [attemptedBy, hp]
  rcases hof : Delivery.ofSession? s with - | d
  · have hnone := hn.conn_ne_of_ofSession? hs hof
    exact hnothing (hattempts.trans (Delivery.attemptedTo_eq_nil _ wall packets hnone _))
      (hn.entry?_feed_of_none hs hof picture wall)
  · have hentry := hn.entry?_feed hd hp wall hs
    generalize hsent : (Delivery.sendAll (Rtp.videoClock picture.time) wall packets h.deliveries
      h.media).1 = sent at hentry
    have hmap : sent.map (·.conn) = h.deliveries.map (·.conn) :=
      hsent ▸ Delivery.map_conn_sendAll _ wall packets h.deliveries h.media
    obtain ⟨hconn, htransport, -, -⟩ := Delivery.of_ofSession? hof
    obtain ⟨turn, hturn, -, hmem, -⟩ := Delivery.exists_attempts (Rtp.videoClock picture.time) wall
      packets hn.nodup_deliveries (hh.nodup_deliveries hn) h.media
      (mem_deliveries.mpr ⟨s, hs, hof⟩)
    have hdone := Delivery.sent_send (Rtp.videoClock picture.time) wall packets d turn
    rw [hsent] at hmem
    have hfind : sent.find? (Delivery.concerns s) =
        some (d.send (Rtp.videoClock picture.time) wall packets turn).1 :=
      Delivery.find?_concerns (hmap ▸ hn.nodup_deliveries) hmem (hdone.conn.trans hconn)
        (hdone.transport ▸ htransport)
    have hfailed := Delivery.failed_send (Rtp.videoClock picture.time) wall packets
      (Delivery.start_of_ofSession? hof).2 turn
    have hdue := Delivery.reportDue_send (Rtp.videoClock picture.time) wall packets d turn
    rw [Delivery.reportDue_of_ofSession? hof] at hdue
    rw [hconn] at hturn
    rw [hattempts, hturn]
    simp only [Delivery.failedFor, Delivery.settle, hfind, Option.any_some] at hentry
    exact .of_ite hn' hentry hfailed hdue

/-- What a feed does for an entry that plays. -/
theorem Owned.feed_of_playing {h : Hub} (hn : h.Numbered) (hh : h.Owned) (hcoherent : h.Coherent)
    {t : Session} (ht : t ∈ h.sessions) (hplaying : t.isPlaying = true) {picture : Picture}
    {packets : List Bytes} (hp : h.packetizer.packets picture = .ok packets)
    (wall : Rtcp.NtpTime) :
    ∃ d reports data, Delivery.ofSession? t = some d ∧
      h.attemptedBy t.conn (.feed picture wall) = reports ++ data ∧
      d.Attempted (Rtp.videoClock picture.time) wall packets reports data ∧
      (Hub.entry? (h.feed picture wall).2 t.conn = none ↔ ∃ a ∈ data, a.taken = false) ∧
      (h.feed picture wall).2.media.log d.transport =
        h.media.log d.transport ++ Attempt.carried (reports ++ data) := by
  obtain ⟨id, hid⟩ := hcoherent.holds_of_playing ht hplaying
  obtain ⟨d, hof⟩ : ∃ d, Delivery.ofSession? t = some d := by
    rw [Delivery.ofSession?, if_pos hplaying, show t.stream.transport = some id from hid]
    exact ⟨_, rfl⟩
  obtain ⟨turn, hattempts, hlog⟩ := hh.attempts_of_playing hn ht hof hp wall
  obtain ⟨reports, data, hsplit, hattempted⟩ := Delivery.attempts_split
    (Rtp.videoClock picture.time) wall packets (Delivery.start_of_ofSession? hof).2 turn
  rw [hsplit] at hattempts hlog
  refine ⟨d, reports, data, hof, hattempts, hattempted, ?_, hlog⟩
  rw [(hh.settled_feed hn ht picture wall).gone, hattempts, hattempted.allPackets_iff]
  simp

/-! ### All that happens to a connection -/

/-- A connection has the history `l`: its entry, if it lives, has a report due as the history has
it, and all packets in the history were taken. -/
structure Reported (conn : ConnId) (l : List Event) (h : Hub) : Prop where
  below : conn < h.nextConn
  due : ∀ t ∈ h.sessions, t.conn = conn → (t.stream.reportDue = true ↔ Event.ReportDue l)
  taken : ∀ t ∈ h.sessions, t.conn = conn → Attempt.AllPackets (Event.attempts l)

theorem Reported.perform {conn : ConnId} {l : List Event} {h : Hub} (hn : h.Numbered)
    (hh : h.Owned) (hr : Reported conn l h) (o : Operation) :
    Reported conn (l ++ h.eventsBy conn o) (h.perform o).2 := by
  have hbelow : conn < (h.perform o).2.nextConn :=
    Nat.lt_of_lt_of_le hr.below (Changes.nextConn_le (changes_perform hn o))
  cases ho : o.isQuiet with
  | true =>
    rw [eventsBy, attemptedBy_of_quiet h conn ho, List.map_nil, List.append_nil]
    refine ⟨hbelow, fun t ht hconn => ?_, fun t ht hconn => ?_⟩ <;>
      obtain ⟨s, hs, hsconn, hdue⟩ := reportDue_perform hn ho ht (hconn ▸ hr.below)
    · rw [hdue, hr.due s hs (hsconn.trans hconn), hsconn, hconn]
      split
      · next hplays => simp [hplays, Event.reportDue_played]
      · next hplays => simp [hplays]
    · rw [Event.attempts_append]
      have htaken := hr.taken s hs (hsconn.trans hconn)
      split <;> simpa [Event.attempts] using htaken
  | false =>
    cases o with
    | feed picture wall =>
      have hevents : h.eventsBy conn (.feed picture wall) =
          (h.attemptedBy conn (.feed picture wall)).map .attempted := rfl
      have hplayed : Event.played ∉ h.eventsBy conn (.feed picture wall) := by
        rw [hevents]
        simp
      refine ⟨hbelow, fun t ht hconn => ?_, fun t ht hconn => ?_⟩ <;>
        obtain ⟨s, hs, hsconn, -⟩ := Changes.origin (Q := fun _ _ => True) (fun _ _ h => h) .refl
          (fun _ _ _ => trivial) (fun _ _ _ => trivial) (fun _ _ => trivial) hn
          (changes_feed h Session.revised_settle picture wall) ht (hconn ▸ hr.below)
      all_goals
        obtain ⟨hall, hdue⟩ :=
          (hh.settled_feed hn hs picture wall).kept t ht hsconn.symm
        rw [hsconn, hconn] at hall hdue
      · rw [hdue, hr.due s hs (hsconn.trans hconn), Event.reportDue_append hplayed, hevents,
          Event.attempts_attempted]
      · rw [Event.attempts_append, hevents, Event.attempts_attempted, Attempt.allPackets_append]
        exact ⟨hr.taken s hs (hsconn.trans hconn), hall⟩
    | _ => cases ho

theorem Reported.run {conn : ConnId} {l : List Event} {h : Hub} (hn : h.Numbered) (hh : h.Owned)
    (hr : Reported conn l h) (operations : List Operation) :
    Reported conn (l ++ h.events conn operations) (h.run operations) := by
  induction operations generalizing l h with
  | nil =>
    rw [events, List.append_nil]
    exact hr
  | cons o rest ih =>
    rw [events, ← List.append_assoc]
    exact ih (numbered_run hn [o]) (hh.run hn [o]) (hr.perform hn hh o)

/-- A report that is due by the history is attempted with the next picture. -/
theorem Reported.attempts_report {conn : ConnId} {l : List Event} {h : Hub} (hn : h.Numbered)
    (hh : h.Owned) (hcoherent : h.Coherent) (hr : Reported conn l h) (hdue : Event.ReportDue l)
    {t : Session} (ht : t ∈ h.sessions) (hconn : t.conn = conn) (hplaying : t.isPlaying = true)
    {picture : Picture} {packets : List Bytes} (hp : h.packetizer.packets picture = .ok packets)
    (wall : Rtcp.NtpTime) :
    ∃ a ∈ h.attemptedBy conn (.feed picture wall), a.lane = .control := by
  obtain ⟨d, reports, data, hof, hattempts, hattempted, -⟩ :=
    hh.feed_of_playing hn hcoherent ht hplaying hp wall
  have hreports : reports ≠ [] := by
    rw [hattempted.due, Delivery.reportDue_of_ofSession? hof]
    exact (hr.due t ht hconn).mpr hdue
  obtain ⟨a, ha⟩ := List.exists_mem_of_ne_nil _ hreports
  rw [hconn] at hattempts
  exact ⟨a, hattempts ▸ List.mem_append_left _ ha, (hattempted.report a ha).1⟩

/-- A connection has no history when it is registered, and no report is due. -/
theorem reported_register {h : Hub} (hn : h.Numbered) (peer : SocketAddress) (outlet : Outlet)
    (now : Nat) : Reported h.nextConn [] (h.register peer outlet now).2 := by
  refine ⟨Nat.lt_succ_self _, fun t ht hconn => ?_, fun _ _ _ _ ha => absurd ha List.not_mem_nil⟩
  rcases List.mem_append.mp ht with ht | ht
  · exact absurd hconn (Nat.ne_of_lt (hn.below t ht))
  · rw [List.mem_singleton.mp ht]
    constructor
    · exact nofun
    · rintro ⟨before, after, hl, -⟩
      simp at hl

/-! ### What the history counts -/

/-- The packets in a history are those that were handed over. -/
theorem packets_events (h : Hub) (conn : ConnId) (operations : List Operation) :
    Attempt.packets (Event.attempts (h.events conn operations)) =
      (h.handedOver conn operations).map (·.octets) := by
  induction operations generalizing h with
  | nil => rfl
  | cons o rest ih =>
    have hplayed : Event.attempts (if h.plays conn o then [.played] else []) = [] := by
      split <;> rfl
    rw [events, Event.attempts_append, Attempt.packets_append, ih, eventsBy,
      Event.attempts_append, hplayed, Event.attempts_attempted, List.nil_append,
      packets_attemptedBy, handedOver, List.map_append]

/-- How many octets of some packets come after the RTP headers. -/
def payload (packets : List Bytes) : Nat := (packets.map fun x => x.length - Rtp.headerSize).sum

/-- Stamping does not change how many octets are counted. -/
theorem payload_octets {sequence : UInt16} {ssrc : UInt32} {l : List Handover}
    (hl : Handover.Consecutive sequence ssrc l) :
    payload (l.map (·.octets)) = Handover.payload l := by
  have hlength : ∀ x ∈ l, x.octets.length = x.packet.length := by
    intro x hx
    obtain ⟨i, hi⟩ := List.mem_iff_getElem?.mp hx
    rw [hl i x hi, Rtp.length_stamp]
  clear hl
  induction l with
  | nil => rfl
  | cons x rest ih =>
    have hrest := ih fun y hy => hlength y (List.mem_cons_of_mem _ hy)
    rw [payload] at hrest ⊢
    rw [List.map_cons, List.map_cons, List.sum_cons, hrest, hlength x List.mem_cons_self]
    rfl

/-! ### After any run -/

section Opened

variable (settings : Settings) (authenticator : Option Authenticator)
  (packetizer : Jpeg.Packetizer) (entropy : Entropy) (ports : PortPool) (linkFault : Option Text)

/-- **Sender reports.**  Let a connection be registered after any run of a hub that was opened
without connections, and let any run follow after which its entry plays.

* All packets in the history of the connection were taken.
* Whatever picture is sent now, a report is attempted if and only if one is due by the history, once
  and before the packets.
* The report has twenty-eight octets and reads back, with the source of the entry, the wall clock,
  the media clock, and the number of packets and octets in the history.
* The packets are those of the picture from the first one on, with the source of the entry and the
  same media clock, up to the first that is refused, and all of them if none is.
* The entry goes if and only if a packet is refused.
* The transport carries what it takes of all this, in this order.
* If the report is refused it is attempted again with the next picture, whatever happens before,
  until one is taken. -/
theorem sender_reports (before after : List Operation) (peer : SocketAddress) (outlet : Outlet)
    (now : Nat) :
    let start := (opened settings authenticator packetizer entropy ports linkFault).run before
    let first := (start.register peer outlet now).1
    let registered := (start.register peer outlet now).2
    let history := registered.events first.conn after
    let sent := Attempt.packets (Event.attempts history)
    let h := registered.run after
    (∀ t ∈ h.sessions, t.conn = first.conn → Attempt.AllPackets (Event.attempts history)) ∧
    ∀ t ∈ h.sessions, t.conn = first.conn → t.isPlaying = true →
    ∀ picture packets wall, packetizer.packets picture = .ok packets →
      let fed := (h.feed picture wall).2
      ∃ reports data,
        h.eventsBy first.conn (.feed picture wall) = (reports ++ data).map .attempted ∧
        (reports.length ≤ 1 ∧ (reports ≠ [] ↔ Event.ReportDue history)) ∧
        (∀ a ∈ reports, a.lane = .control ∧ a.octets.length = 28 ∧
          ∃ report, Rtcp.SenderReport.read? a.octets = some report ∧
            report.ssrc = t.stream.ssrc ∧ report.ntp = wall ∧
            report.rtpTimestamp.toNat = picture.time.toNat * 90 % UInt32.size ∧
            report.packetCount.toNat = sent.length % UInt32.size ∧
            report.octetCount.toNat = payload sent % UInt32.size) ∧
        (∀ i a, data[i]? = some a → a.lane = .data ∧
          (∃ packet, packets[i]? = some packet ∧
            a.octets = Rtp.stamp packet (t.stream.sequence + UInt16.ofNat i) t.stream.ssrc) ∧
          ∃ header, Rtp.Header.read? a.octets = some header ∧ header.ssrc = t.stream.ssrc ∧
            header.timestamp.toNat = picture.time.toNat * 90 % UInt32.size) ∧
        ((∀ a ∈ data.dropLast, a.taken = true) ∧
          ((∀ a ∈ data, a.taken = true) → data.length = packets.length)) ∧
        (fed.entry? first.conn = none ↔ ∃ a ∈ data, a.taken = false) ∧
        (∀ id, t.stream.transport = some id →
          fed.media.log id = h.media.log id ++ Attempt.carried (reports ++ data)) ∧
        ∀ next, reports ≠ [] →
          Attempt.NoReport (reports ++ Event.attempts (fed.events first.conn next)) →
          ∀ u ∈ (fed.run next).sessions, u.conn = first.conn → u.isPlaying = true →
          ∀ picture' packets' wall', packetizer.packets picture' = .ok packets' →
            ∃ a ∈ (fed.run next).attemptedBy first.conn (.feed picture' wall'),
              a.lane = .control := by
  intro start first registered history sent h
  have hn₀ := numbered_opened settings authenticator packetizer entropy ports linkFault
  have hstart : start.Numbered := numbered_run hn₀ before
  have hregistered : registered.Numbered := numbered_run hstart [.connect peer outlet now]
  have howned : registered.Owned :=
    ((owned_opened settings authenticator packetizer entropy ports linkFault).run hn₀ before).run
      hstart [.connect peer outlet now]
  have hcoherent : registered.Coherent :=
    ((coherent_opened settings authenticator packetizer entropy ports linkFault).run hn₀
      before).run hstart [.connect peer outlet now]
  have hpacketizer : registered.packetizer = packetizer := packetizer_run hn₀ before
  have hsound : ∀ operations, (registered.run operations).Numbered ∧
      (registered.run operations).Owned ∧ (registered.run operations).Coherent ∧
      (registered.run operations).packetizer = packetizer := fun operations =>
    ⟨numbered_run hregistered operations, howned.run hregistered operations,
      hcoherent.run hregistered operations,
      (packetizer_run hregistered operations).trans hpacketizer⟩
  have hreported : ∀ operations, Reported first.conn (registered.events first.conn operations)
      (registered.run operations) := fun operations =>
    (reported_register hstart peer outlet now).run hregistered howned operations
  refine ⟨fun t ht hconn => (hreported after).taken t ht hconn, ?_⟩
  intro t ht hconn hplaying picture packets wall hp fed
  obtain ⟨hn, hh, hc, hpackets⟩ := hsound after
  obtain ⟨d, reports, data, hof, hattempts, hattempted, hgone, hlog⟩ :=
    hh.feed_of_playing hn hc ht hplaying (hpackets ▸ hp) wall
  obtain ⟨-, htransport, hssrc, hcounters⟩ := Delivery.of_ofSession? hof
  obtain ⟨hsequence, hcounted, hoctets⟩ := Counters.mk.inj hcounters
  have hdue : reports ≠ [] ↔ Event.ReportDue history := by
    rw [hattempted.due, Delivery.reportDue_of_ofSession? hof]
    exact (hreported after).due t ht hconn
  have hevents : h.eventsBy first.conn (.feed picture wall) =
      (reports ++ data).map .attempted := by
    rw [← hattempts, hconn]
    rfl
  have hclock : (Rtp.videoClock picture.time).toNat = picture.time.toNat * 90 % UInt32.size :=
    UInt32.toNat_mul picture.time 90
  refine ⟨reports, data, hevents, ⟨hattempted.once, hdue⟩, fun a ha => ?_, fun i a ha => ?_,
    ⟨hattempted.taken, hattempted.whole⟩, hconn ▸ hgone, fun id hid => ?_, ?_⟩
  · obtain ⟨hlane, hwritten⟩ := hattempted.report a ha
    have hstreamed : Streamed first (registered.handedOver first.conn after) h :=
      (Streamed.of_mem hregistered (s := first)
        (List.mem_append_right _ (List.mem_singleton.mpr rfl))).run hregistered after
    obtain ⟨-, -, hcount, hsize⟩ := hstreamed.toNat_counters rfl rfl ht hconn
    have hsent : sent = (registered.handedOver first.conn after).map (·.octets) :=
      packets_events registered first.conn after
    refine ⟨hlane, ?_, d.senderReport (Rtp.videoClock picture.time) wall, ?_, hssrc, rfl, hclock,
      ?_, ?_⟩
    · rw [hwritten]
      exact Rtcp.SenderReport.length_write _
    · rw [hwritten]
      exact Rtcp.SenderReport.read?_write _
    · rw [hsent, List.length_map, ← hcount]
      exact congrArg UInt32.toNat hcounted
    · rw [hsent, payload_octets hstreamed.stamped, ← hsize]
      exact congrArg UInt32.toNat hoctets
  · obtain ⟨hlane, packet, hpacket, hstamped⟩ := hattempted.packet i a ha
    rw [hssrc, show d.sequence = t.stream.sequence from hsequence] at hstamped
    obtain ⟨header, hread, htime⟩ := Jpeg.Packetizer.timestamp_packets hp packet
      (List.mem_of_getElem? hpacket)
    have hread' := Rtp.Header.read?_stamp hread (t.stream.sequence + UInt16.ofNat i) t.stream.ssrc
    rw [← hstamped] at hread'
    exact ⟨hlane, ⟨packet, hpacket, hstamped⟩, _, hread', rfl, (congrArg _ htime).trans hclock⟩
  · obtain rfl := Option.some.inj (htransport.symm.trans hid)
    exact hlog
  · intro next hreports hnone u hu huconn huplays picture' packets' wall' hp'
    -- the report is still due, by the history with the picture and what comes next
    have hrun : registered.run (after ++ .feed picture wall :: next) = fed.run next :=
      List.foldl_append
    have hhistory : Event.ReportDue
        (registered.events first.conn (after ++ .feed picture wall :: next)) := by
      rw [events_append]
      refine (hdue.mp hreports).append ?_
      show Attempt.NoReport (Event.attempts (h.eventsBy first.conn (.feed picture wall) ++
        fed.events first.conn next))
      obtain ⟨hrefused, hnext⟩ := Attempt.noReport_append.mp hnone
      rw [hevents, Event.attempts_append, Event.attempts_attempted, Attempt.noReport_append]
      exact ⟨hattempted.noReport_iff.mpr hrefused, hnext⟩
    have hagain := hreported (after ++ .feed picture wall :: next)
    obtain ⟨hn, hh, hc, hpackets⟩ := hsound (after ++ .feed picture wall :: next)
    rw [hrun] at hagain hn hh hc hpackets
    exact hagain.attempts_report hn hh hc hhistory hu huconn huplays (hpackets ▸ hp') wall'

end Opened

end Hub

end RtspServer
