/-
RtspServer/Proofs/Tally.lean

Which packets of a client are counted.  They wait in the inbox of its transport,
which is a queue of limited length (`Media.books_handleAll`), until the silent are
closed.  Then every inbox is emptied, and every entry has those packets counted
that waited for it and are RTCP packets, before anybody is closed
(`Hub.Numbered.reap_counted`).  Nothing else changes a count
(`Hub.rtcpReceived_perform`), and what one client sends is nothing to the counts of
the others (`Hub.Owned.entry?_run_deliver`).
-/
import RtspServer.Proofs.Inbox
import RtspServer.Proofs.Keepalive
import RtspServer.Proofs.Silence

namespace RtspServer

namespace Rtcp

/-- Four octets at least, version 2 in the upper two bits of the first one, and one of the types
from 200 to 206 in the second one. -/
def IsPacket (packet : Bytes) : Prop :=
  4 ≤ packet.length ∧ (∃ a ∈ packet[0]?, a.toNat / 64 = 2) ∧
    ∃ type ∈ packet[1]?, 200 ≤ type.toNat ∧ type.toNat ≤ 206

instance (packet : Bytes) : Decidable (IsPacket packet) :=
  inferInstanceAs (Decidable (_ ∧ _ ∧ _))

/-- The upper two bits of an octet. -/
theorem shiftRight_six_eq_two_iff (a : UInt8) : a >>> 6 = 2 ↔ a.toNat / 64 = 2 := by
  rw [← UInt8.toNat_inj, UInt8.toNat_shiftRight, Nat.shiftRight_eq_div_pow]
  rfl

/-- Just the RTCP packets have a type. -/
theorem isSome_packetType? (packet : Bytes) : (packetType? packet).isSome ↔ IsPacket packet := by
  match packet with
  | [] | [_] | [_, _] | [_, _, _] => simp [packetType?, IsPacket]
  | a :: type :: _ :: _ :: _ =>
    have hbounds : (200 ≤ type ∧ type ≤ 206) ↔ (200 ≤ type.toNat ∧ type.toNat ≤ 206) := by
      rw [UInt8.le_iff_toNat_le, UInt8.le_iff_toNat_le]
      rfl
    simp [packetType?, IsPacket, shiftRight_six_eq_two_iff, and_assoc, hbounds]

end Rtcp

/-- A revision that leaves the count of an entry alone. -/
structure Session.SameCount (s t : Session) : Prop extends s.Revised t where
  rtcpReceived : t.stream.rtcpReceived = s.stream.rtcpReceived

/-- No operation but closing the silent counts. -/
theorem Operation.Revises.sameCount {o : Operation} (ho : ∀ now, o ≠ .reap now) {s t : Session}
    (hr : o.Revises s t) : s.SameCount t := by
  refine ⟨hr.revised, ?_⟩
  cases hr with
  | settled deliveries =>
    unfold Delivery.settle
    split <;> rfl
  | tallied => exact absurd rfl (ho _)
  | _ => rfl

namespace Hub

/-! ### What changes a count -/

/-- How many packets have been counted for a connection; none if it has no entry. -/
def rtcpCount (h : Hub) (conn : ConnId) : Nat :=
  ((h.entry? conn).map (·.stream.rtcpReceived)).getD 0

/-- Every entry counts as many as before some changes, and a new one none. -/
theorem Changes.rtcpReceived {h h' : Hub} (hn : h.Numbered) (hc : Changes Session.SameCount h h')
    {t : Session} (ht : t ∈ h'.sessions) : t.stream.rtcpReceived = h.rtcpCount t.conn := by
  suffices hall : h.nextConn ≤ h'.nextConn ∧
      ∀ t ∈ h'.sessions, t.stream.rtcpReceived = h.rtcpCount t.conn from hall.2 t ht
  refine changes_induction (fun _ _ hr => hr.toRevised)
    (P := fun k => h.nextConn ≤ k.nextConn ∧
      ∀ t ∈ k.sessions, t.stream.rtcpReceived = h.rtcpCount t.conn) ?_ hn
    ⟨Nat.le_refl _, fun t ht => ?_⟩ hc
  · rintro k k' hk ⟨hle, hcount⟩ hstep
    refine ⟨Nat.le_trans hle hstep.nextConn_le, fun t ht => ?_⟩
    rcases hstep.mem_sessions (fun s => ⟨.refl s, rfl⟩) hk ht with ⟨s, hs, hr⟩ | hnew | ⟨s, hs, id, transport, rfl, -⟩
    · rw [hr.rtcpReceived, hr.conn, hcount s hs]
    · -- a number that is given out only now was not there before
      have hnone : h.entry? t.conn = none := List.find?_eq_none.mpr fun s hs hsame =>
        absurd (hnew.conn ▸ eq_of_beq hsame ▸ hn.below s hs) (Nat.not_lt.mpr hle)
      rw [hnew.rtcpReceived, rtcpCount, hnone]
      rfl
    · exact hcount s hs
  · rw [rtcpCount, hn.entry?_conn ht]
    rfl

/-- **Only closing the silent changes counts.** -/
theorem rtcpReceived_perform {h : Hub} (hn : h.Numbered) {o : Operation}
    (ho : ∀ now, o ≠ .reap now) {t : Session} (ht : t ∈ (h.perform o).2.sessions) :
    t.stream.rtcpReceived = h.rtcpCount t.conn :=
  Changes.rtcpReceived hn ((changes_perform_within hn o).mono fun _ _ hr => hr.sameCount ho) ht

/-! ### Counting -/

/-- The packets that wait for an entry. -/
def waitingFor (h : Hub) (s : Session) : List Arrival :=
  (s.stream.transport.map h.media.inbox).getD []

/-- An entry with those packets counted that wait for it and are RTCP packets. -/
def counted (h : Hub) (s : Session) : Session :=
  { s with stream := { s.stream with
      rtcpReceived := s.stream.rtcpReceived +
        (h.waitingFor s).countP fun a => Rtcp.IsPacket a.payload } }

theorem tallied_eq_counted (h : Hub) (s : Session) : tallied h.media s = h.counted s := by
  have hpending : pendingReports h.media s =
      (h.waitingFor s).countP fun a => Rtcp.IsPacket a.payload := by
    unfold pendingReports waitingFor
    rcases s.stream.transport with - | id
    · rfl
    · refine List.countP_congr fun a _ => ?_
      rw [decide_eq_true_iff]
      exact Rtcp.isSome_packetType? a.payload
  rw [tallied, hpending, counted]

theorem Numbered.entry?_drain {h : Hub} (hn : h.Numbered) {s : Session} (hs : s ∈ h.sessions) :
    h.drain.entry? s.conn = some (h.counted s) := by
  have hmap := h.entry?_map (f := tallied h.media) (fun _ => rfl) s.conn
  rw [hn.entry?_conn hs, Option.map_some, tallied_eq_counted] at hmap
  exact hmap

/-- Emptying the inboxes of some entries. -/
theorem inbox_emptyInboxes (sessions : List Session) (m : Media) {id : TransportId}
    (hid : (∃ s ∈ sessions, Holds s id) ∨ m.inbox id = []) :
    (sessions.foldl emptyInbox m).inbox id = [] := by
  induction sessions generalizing m with
  | nil => exact hid.resolve_left fun ⟨_, hs, _⟩ => absurd hs List.not_mem_nil
  | cons s rest ih =>
    refine ih (emptyInbox m s) ?_
    have hone : (emptyInbox m s).inbox id = if Holds s id then [] else m.inbox id := by
      unfold emptyInbox
      split
      · next other hother =>
        rw [Media.inbox_clearInbox]
        exact if_congr (by rw [Holds, hother, Option.some_inj]) rfl rfl
      · next hnone =>
        have hno : ¬Holds s id := fun hholds => nomatch hnone.symm.trans hholds
        exact (if_neg hno).symm
    rcases hid with ⟨t, ht, htid⟩ | hempty
    · rcases List.mem_cons.mp ht with rfl | ht
      · exact Or.inr (hone.trans (if_pos htid))
      · exact Or.inl ⟨t, ht, htid⟩
    · exact Or.inr (by rw [hone, hempty, ite_self])

theorem inbox_evict (h : Hub) (p keepOutlet : Session → Bool) (id : TransportId) :
    (h.evict p keepOutlet).2.media.inbox id = h.media.inbox id := by
  have hgone : (h.evict p keepOutlet).2.media.transports[id]? = _ :=
    transports_letGoAll keepOutlet (h.sessions.filter p) h.media id
  rw [Media.inbox, hgone, Media.inbox]
  by_cases hheld : ∃ s ∈ h.sessions.filter p, Holds s id
  · rw [if_pos hheld]
    rcases h.media.transports[id]? with - | t <;> rfl
  · rw [if_neg hheld]

theorem inbox_reap {h : Hub} (now : Nat) {s : Session} (hs : s ∈ h.sessions) {id : TransportId}
    (hid : Holds s id) : (h.reap now).2.media.inbox id = [] :=
  (h.drain.inbox_evict _ _ id).trans (inbox_emptyInboxes h.sessions h.media (Or.inl ⟨s, hs, hid⟩))

/-! ### After any run -/

section Opened

variable (settings : Settings) (authenticator : Option Authenticator)
  (packetizer : Jpeg.Packetizer) (entropy : Entropy) (ports : PortPool) (linkFault : Option Text)

/-- **What clients send is counted once and for them alone.**

However a new interleaved transport is started, stopped, handed frames and received from:

* a frame is known if and only if its channel is one of the transport's two;
* what has been received and what is in the inbox, in this order, is what was accepted, each packet
  once: those packets on the two channels that came while the transport had not been stopped and
  fewer than sixty-four were pending;
* what is received next is the first packet that has not been fetched, if there is one.

After any run of a hub that was opened without connections:

* when the silent are closed, every entry first has those packets counted that wait for it and are
  RTCP packets, and the inbox of its transport is empty afterwards, as if the packets had been
  received one after the other;
* no other operation changes the count of an entry, and a new entry counts none;
* what one connection sends makes no difference to the entries of the others, whatever happens
  afterwards. -/
theorem inbound_counted :
    (∀ (m : Media) (outlet : OutletId) (channels : ChannelPair) (handlings : List Handling),
      let id := (m.openInterleaved outlet channels).1
      let state := (m.openInterleaved outlet channels).2.handleAll id handlings
      let ledger := Ledger.of channels handlings
      (∀ frame, (state.2.deliver id frame).1 = true ↔
        frame.channel = channels.data ∨ frame.channel = channels.control) ∧
      state.1 = ledger.accepted.take ledger.fetched ∧
      state.2.inbox id = ledger.accepted.drop ledger.fetched ∧
      (state.2.receive? id).map (·.1) = ledger.accepted[ledger.fetched]? ∧
      ledger.fetched ≤ ledger.accepted.length ∧ ledger.pending ≤ 64) ∧
    ∀ operations : List Operation,
      let h := (opened settings authenticator packetizer entropy ports linkFault).run operations
      (∀ now, let after := (h.reap now).2
        after = (h.drain.evict (h.drain.isIdle now) fun _ => false).2 ∧
        ∀ s ∈ h.sessions, h.drain.entry? s.conn = some (h.counted s) ∧
          after.entry? s.conn = (if h.Overdue now s then none else some (h.counted s)) ∧
          ∀ id, s.stream.transport = some id → after.media.inbox id = [] ∧
            h.media.handleAll id (List.replicate (h.waitingFor s).length .receive) =
              (h.waitingFor s, h.media.clearInbox id)) ∧
      (∀ operation, (∀ now, operation ≠ .reap now) →
        ∀ t ∈ (h.perform operation).2.sessions, t.stream.rtcpReceived = h.rtcpCount t.conn) ∧
      ∀ conn frame other later, other ≠ conn →
        Hub.entry? ((h.perform (.deliver conn frame)).2.run later) other =
          Hub.entry? (h.run later) other := by
  refine ⟨fun m outlet channels handlings => ?_, fun operations => ?_⟩
  · obtain ⟨t, hb⟩ := Media.books_handleAll m outlet channels handlings
    refine ⟨hb.fst_deliver, hb.received, ?_, hb.receive?_eq, hb.fetched, hb.pending⟩
    rw [← hb.inbox, Media.inbox, hb.transport]
  · intro h
    have hn₀ := numbered_opened settings authenticator packetizer entropy ports linkFault
    have hn : h.Numbered := numbered_run hn₀ operations
    have hh : h.Owned :=
      (owned_opened settings authenticator packetizer entropy ports linkFault).run hn₀ operations
    refine ⟨fun now => ⟨rfl, fun s hs => ⟨hn.entry?_drain hs, ?_, fun id hid => ?_⟩⟩,
      fun operation ho t ht => rtcpReceived_perform hn ho ht,
      fun conn frame other later hne => hh.entry?_run_deliver hn frame hne later⟩
    · rw [hn.reap now hs, tallied_eq_counted]
    · have hwaiting : h.waitingFor s = h.media.inbox id := by rw [waitingFor, hid]; rfl
      rw [hwaiting]
      exact ⟨inbox_reap now hs hid, h.media.handleAll_receive id⟩

end Opened

/-- Two connections, each with an interleaved transport: the first sends a sender report and a
packet that is none, the second sends a receiver report. -/
def twoTalking : List Operation :=
  let peer : SocketAddress := ⟨.v4 127 0 0 1, 4000, 0⟩
  [.connect peer {} 0, .connect peer {} 0, .incident (.made (.interleaved 0 ⟨0, 1⟩)),
    .incident (.made (.interleaved 1 ⟨0, 1⟩)), .setUp 1 0, .setUp 2 1,
    .deliver 1 ⟨1, [0x80, 200, 0, 0]⟩, .deliver 1 ⟨0, [1, 2]⟩, .deliver 2 ⟨1, [0x80, 201, 0, 0]⟩]

/-- One of the two packets of the first connection is counted for it, and both are gone; starting to
play counts nothing; and one more report on the first connection is nothing to the second. -/
theorem inbound_counted_twoTalking :
    let h := (opened {} none {} ⟨UInt16.ofNat, UInt32.ofNat, UInt64.ofNat, 0, 0, 0⟩ {} none).run
      twoTalking
    let after := (h.reap 0).2
    let play := Operation.play (Entropy.sessionName 0)
    (∃ s ∈ h.sessions, (h.waitingFor s).length = 2 ∧ after.entry? 1 = some (h.counted s) ∧
      (h.counted s).stream.rtcpReceived = 1 ∧ after.media.inbox 0 = []) ∧
    (∀ t ∈ (h.perform play).2.sessions, t.stream.rtcpReceived = h.rtcpCount t.conn) ∧
    Hub.entry? ((h.perform (.deliver 1 ⟨1, [0x80, 200, 0, 0]⟩)).2.run [.reap 0]) 2 =
      Hub.entry? (h.run [.reap 0]) 2 := by
  intro h after play
  obtain ⟨hreap, hquiet, hothers⟩ := (inbound_counted {} none {}
    ⟨UInt16.ofNat, UInt32.ofNat, UInt64.ofNat, 0, 0, 0⟩ {} none).2 twoTalking
  refine ⟨?_, hquiet play fun _ => nofun, hothers 1 _ 2 _ (by decide)⟩
  obtain ⟨s, hs, hconn, hid, htimely, hlength, hcount⟩ : ∃ s ∈ h.sessions, s.conn = 1 ∧
      s.stream.transport = some 0 ∧ ¬h.Overdue 0 s ∧ (h.waitingFor s).length = 2 ∧
      (h.counted s).stream.rtcpReceived = 1 := by decide
  obtain ⟨-, hafter, hinbox⟩ := (hreap 0).2 s hs
  rw [if_neg htimely, hconn] at hafter
  exact ⟨s, hs, hlength, hafter, hcount, (hinbox 0 hid).1⟩

end Hub

end RtspServer
