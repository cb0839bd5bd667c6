/-
RtspServer/Proofs/Accounting.lean

What is reported of a picture is what has become of it.  The counts of a report
are gathered while packets are sent, delivery by delivery; they come to the
number of entries that play, of packets that their transports have taken, and of
entries that are gone (`Hub.feed_accounts`).

All attempts of a delivery are told by one number.  If its transport has taken
`k` packets, these were the first `k`, and then the next one was refused, if
there was another (`Delivery.Attempted.data_eq`).  The entry goes exactly then.

A picture that cannot be cut is reported as a fault and leaves everything as it
was, the reports that were due included.  With nobody playing it is not looked
at.
-/
import RtspServer.Proofs.Reporting

namespace RtspServer

namespace Attempt

/-- How many packets among some attempts have been taken. -/
def packetsTaken (l : List Attempt) : Nat := l.countP fun a => a.lane == .data && a.taken

@[simp] theorem packetsTaken_append (l l' : List Attempt) :
    packetsTaken (l ++ l') = packetsTaken l + packetsTaken l' :=
  List.countP_append

/-- Reports are no packets. -/
theorem packetsTaken_of_control {l : List Attempt} (hl : ∀ a ∈ l, a.lane = .control) :
    packetsTaken l = 0 :=
  List.countP_eq_zero.mpr fun a ha => by simp [hl a ha]

/-- A packet that is taken. -/
def accepted (octets : Bytes) : Attempt := ⟨.data, octets, true⟩

/-- A packet that is refused. -/
def refused (octets : Bytes) : Attempt := ⟨.data, octets, false⟩

theorem carried_map_accepted (packets : List Bytes) :
    carried (packets.map accepted) = packets.map fun octets => (.data, octets) := by
  induction packets with
  | nil => rfl
  | cons octets rest ih =>
    have hcons : carried (accepted octets :: rest.map accepted) =
        (.data, octets) :: carried (rest.map accepted) := rfl
    rw [List.map_cons, hcons, ih, List.map_cons]

theorem carried_map_refused (packets : List Bytes) : carried (packets.map refused) = [] := by
  have hnone : (packets.map refused).filter (·.taken) = [] :=
    List.filter_eq_nil_iff.mpr fun a ha => by
      obtain ⟨octets, -, rfl⟩ := List.mem_map.mp ha
      exact Bool.false_ne_true
  rw [carried, hnone]
  rfl

end Attempt

open Attempt

/-- Some packets as the receiver of a stream gets them: numbered from its sequence number on, and
with its source. -/
def Stream.stamps (stream : Stream) (packets : List Bytes) : List Bytes :=
  packets.mapIdx fun i packet => Rtp.stamp packet (stream.sequence + UInt16.ofNat i) stream.ssrc

@[simp] theorem Stream.length_stamps (stream : Stream) (packets : List Bytes) :
    (stream.stamps packets).length = packets.length :=
  List.length_mapIdx

namespace Delivery

/-! ### One delivery -/

section Send

variable (clock : UInt32) (wall : Rtcp.NtpTime) (packets : List Bytes)

theorem packetsTaken_reportAttempts (d : Delivery) (m : Media) :
    packetsTaken (d.reportAttempts clock wall m) = 0 := by
  refine packetsTaken_of_control fun a ha => ?_
  unfold reportAttempts at ha
  split at ha
  · rw [List.mem_singleton.mp ha]
  · exact absurd ha List.not_mem_nil

/-- A delivery counts the packets that are taken. -/
theorem packetsTaken_dataAttempts (state : Delivery × Media) :
    (packets.foldl sendPacket state).1.sent =
      state.1.sent + packetsTaken (dataAttempts state packets) := by
  induction packets generalizing state with
  | nil => rfl
  | cons packet rest ih =>
    cases hf : state.1.failed with
    | true =>
      rw [foldl_sendPacket_of_failed hf, dataAttempts_of_failed hf]
      rfl
    | false =>
      rw [List.foldl_cons, ih, dataAttempts_cons hf]
      obtain ⟨d, m⟩ := state
      have hf : d.failed = false := hf
      rcases hsend : m.send d.transport .data (d.stamped packet) with fault | m'
      · have hsent : (sendPacket (d, m) packet).1.sent = d.sent := by
          simp [sendPacket, hf, hsend, count]
        rw [hsent]
        simp [packetsTaken, Except.isOk, Except.toBool]
      · have hsent : (sendPacket (d, m) packet).1.sent = d.sent + 1 := by
          simp [sendPacket, hf, hsend]
        rw [hsent]
        simp [packetsTaken, Except.isOk, Except.toBool]
        omega

theorem packetsTaken_attempts (d : Delivery) (m : Media) :
    (d.send clock wall packets m).1.sent =
      d.sent + packetsTaken (d.attempts clock wall packets m) := by
  have hreport : (d.sendReport clock wall m).1.sent = d.sent := by
    unfold sendReport
    (repeat' split) <;> rfl
  rw [send, packetsTaken_dataAttempts, hreport, attempts, packetsTaken_append,
    packetsTaken_reportAttempts, Nat.zero_add]

/-- **What is counted altogether** is what is taken for each connection. -/
theorem totalSent_sendAll {deliveries : List Delivery} (hconns : (deliveries.map (·.conn)).Nodup)
    (m : Media) :
    totalSent (sendAll clock wall packets deliveries m).1 =
      (deliveries.map fun d =>
        d.sent + packetsTaken (attemptedTo clock wall packets d.conn deliveries m)).sum := by
  induction deliveries generalizing m with
  | nil => rfl
  | cons d rest ih =>
    rw [List.map_cons, List.nodup_cons] at hconns
    obtain ⟨hconn, hconns⟩ := hconns
    have hother : ∀ e ∈ rest, e.conn ≠ d.conn := fun e he hc =>
      hconn (List.mem_map.mpr ⟨e, he, hc⟩)
    have hown : attemptedTo clock wall packets d.conn (d :: rest) m =
        d.attempts clock wall packets m := by
      rw [attemptedTo, if_pos rfl, attemptedTo_eq_nil _ _ _ hother, List.append_nil]
    -- the others are attempted after the first, and as if it were not there
    have hrest : (rest.map fun e =>
          e.sent + packetsTaken (attemptedTo clock wall packets e.conn (d :: rest) m)) =
        rest.map fun e => e.sent + packetsTaken
          (attemptedTo clock wall packets e.conn rest (d.send clock wall packets m).2) := by
      refine List.map_congr_left fun e he => ?_
      rw [attemptedTo, if_neg (hother e he).symm, List.nil_append]
    simp only [sendAll, totalSent]
    rw [ih hconns, List.map_cons, List.sum_cons, hown, hrest, packetsTaken_attempts]

end Send

namespace Attempted

variable {clock : UInt32} {wall : Rtcp.NtpTime} {packets : List Bytes} {d : Delivery}
  {reports data : List Attempt}

theorem packetsTaken_reports (h : d.Attempted clock wall packets reports data) :
    packetsTaken reports = 0 :=
  packetsTaken_of_control fun a ha => (h.report a ha).1

theorem octets_eq (h : d.Attempted clock wall packets reports data) {stream : Stream}
    (hsequence : d.sequence = stream.sequence) (hssrc : d.ssrc = stream.ssrc) :
    data.map (·.octets) = (stream.stamps packets).take data.length := by
  refine List.ext_getElem? fun i => ?_
  rw [List.getElem?_map]
  rcases hi : data[i]? with - | a
  · have hlength : data.length ≤ i := List.getElem?_eq_none_iff.mp hi
    rw [Option.map_none, List.getElem?_take, if_neg (Nat.not_lt.mpr hlength)]
  · obtain ⟨-, packet, hpacket, hoctets⟩ := h.packet i a hi
    have hlength : i < data.length := (List.getElem?_eq_some_iff.mp hi).1
    rw [List.getElem?_take, if_pos hlength, Stream.stamps, List.getElem?_mapIdx, hpacket,
      Option.map_some, Option.map_some, hoctets, hsequence, hssrc]

/-- **The packets that are attempted** are those that are taken, which are the first of all, and the
next one, if there is one, which is refused. -/
theorem data_eq (h : d.Attempted clock wall packets reports data) {stream : Stream}
    (hsequence : d.sequence = stream.sequence) (hssrc : d.ssrc = stream.ssrc) :
    data = ((stream.stamps packets).take (packetsTaken data)).map accepted ++
      (stream.stamps packets)[packetsTaken data]?.toList.map refused := by
  have hoctets := h.octets_eq hsequence hssrc
  have hlane := h.lane_data
  -- packets that have all been taken are told by their octets
  have htaken : ∀ {l : List Attempt}, (∀ a ∈ l, a.lane = .data) → (∀ a ∈ l, a.taken = true) →
      l = (l.map (·.octets)).map accepted ∧ packetsTaken l = l.length := by
    intro l hl hall
    constructor
    · rw [List.map_map]
      refine (List.map_id' l).symm.trans (List.map_congr_left fun a ha => ?_)
      rw [Function.comp_apply, accepted, ← hl a ha, ← hall a ha]
    · exact List.countP_eq_length.mpr fun a ha => by simp [hl a ha, hall a ha]
  by_cases hall : ∀ a ∈ data, a.taken = true
  · obtain ⟨hdata, hcount⟩ := htaken hlane hall
    have hwhole := h.whole hall
    have hnone : (stream.stamps packets)[data.length]? = none := by
      rw [List.getElem?_eq_none_iff, Stream.length_stamps, hwhole]
    rw [hcount, hnone, ← hoctets]
    exact hdata.trans (List.append_nil _).symm
  · -- the last one was refused, and the others were taken
    obtain ⟨init, last, rfl⟩ : ∃ init last, data = init ++ [last] := by
      refine ⟨_, _, (List.dropLast_concat_getLast fun hnil => hall ?_).symm⟩
      exact fun a ha => absurd (hnil ▸ ha) List.not_mem_nil
    have hinit : ∀ a ∈ init, a.taken = true := by
      simpa using h.taken
    have hlast : last.taken = false := by
      rw [← Bool.not_eq_true]
      intro htrue
      exact hall fun a ha => (List.mem_append.mp ha).elim (hinit a)
        fun ha => List.mem_singleton.mp ha ▸ htrue
    obtain ⟨hdata, hcount⟩ := htaken (fun a ha => hlane a (List.mem_append_left _ ha)) hinit
    have hlastLane : last.lane = .data := hlane last (List.mem_append_right _ List.mem_cons_self)
    have hk : packetsTaken (init ++ [last]) = init.length := by
      rw [packetsTaken_append, hcount]
      simp [packetsTaken, hlast]
    have hpick : (stream.stamps packets)[init.length]? = some last.octets := by
      have hget := congrArg (·[init.length]?) hoctets
      simpa [List.getElem?_take] using hget.symm
    have hfirst : (stream.stamps packets).take init.length = init.map (·.octets) := by
      have htake := congrArg (List.take init.length) hoctets
      simpa [List.take_take] using htake.symm
    rw [hk, hpick, hfirst, ← hdata]
    show init ++ [last] = init ++ [⟨.data, last.octets, false⟩]
    rw [← hlastLane, ← hlast]

/-- No more packets are taken than there are, and fewer if one is refused. -/
theorem packetsTaken_lt_iff (h : d.Attempted clock wall packets reports data) {stream : Stream}
    (hsequence : d.sequence = stream.sequence) (hssrc : d.ssrc = stream.ssrc) :
    packetsTaken data ≤ packets.length ∧
      ((∃ a ∈ data, a.taken = false) ↔ packetsTaken data < packets.length) := by
  have hdata := h.data_eq hsequence hssrc
  generalize hk : packetsTaken data = k at hdata
  have hle : k ≤ packets.length := by
    have hoctets := congrArg List.length (h.octets_eq hsequence hssrc)
    have hcount : packetsTaken data ≤ data.length := List.countP_le_length
    simp only [List.length_map, List.length_take, Stream.length_stamps] at hoctets
    omega
  refine ⟨hle, ?_⟩
  rw [hdata]
  constructor
  · rintro ⟨a, ha, hrefused⟩
    rcases List.mem_append.mp ha with ha | ha
    · obtain ⟨octets, -, rfl⟩ := List.mem_map.mp ha
      cases hrefused
    · obtain ⟨octets, hmem, -⟩ := List.mem_map.mp ha
      have hsome := Option.mem_toList.mp hmem
      simpa using (List.getElem?_eq_some_iff.mp hsome).1
  · intro hlt
    have hsome := List.getElem?_eq_getElem (l := stream.stamps packets) (by simpa using hlt)
    rw [hsome]
    exact ⟨_, List.mem_append_right _ List.mem_cons_self, rfl⟩

end Attempted

end Delivery

namespace Hub

/-! ### Who is delivered to -/

/-- The deliveries of a picture are for the entries that play. -/
theorem Coherent.map_conn_deliveries {h : Hub} (hh : h.Coherent) :
    h.deliveries.map (·.conn) = (h.sessions.filter (·.isPlaying)).map (·.conn) := by
  have hbound : ∀ s ∈ h.sessions, s.isPlaying = true →
      ∃ d, Delivery.ofSession? s = some d ∧ d.conn = s.conn := by
    intro s hs hplaying
    obtain ⟨id, hid⟩ := hh.holds_of_playing hs hplaying
    rw [Delivery.ofSession?, if_pos hplaying, show s.stream.transport = some id from hid]
    exact ⟨_, rfl, rfl⟩
  unfold deliveries
  generalize h.sessions = sessions at hbound
  induction sessions with
  | nil => rfl
  | cons s rest ih =>
    have hrest := ih fun t ht => hbound t (List.mem_cons_of_mem _ ht)
    cases hplaying : s.isPlaying with
    | true =>
      obtain ⟨d, hof, hconn⟩ := hbound s List.mem_cons_self hplaying
      rw [List.filterMap_cons_some hof, List.filter_cons_of_pos hplaying, List.map_cons,
        List.map_cons, hrest, hconn]
    | false =>
      have hof : Delivery.ofSession? s = none := by simp [Delivery.ofSession?, hplaying]
      rw [List.filterMap_cons_none hof, List.filter_cons_of_neg (by simp [hplaying]), hrest]

theorem Coherent.length_deliveries {h : Hub} (hh : h.Coherent) :
    h.deliveries.length = h.playingCount := by
  have hlength := congrArg List.length hh.map_conn_deliveries
  rw [List.length_map, List.length_map] at hlength
  rw [hlength, playingCount, List.countP_eq_length_filter]

theorem Coherent.deliveries_eq_nil_iff {h : Hub} (hh : h.Coherent) :
    h.deliveries = [] ↔ h.playingCount = 0 := by
  rw [← hh.length_deliveries, List.length_eq_zero_iff]

/-- Nothing has been sent when a delivery is noted. -/
theorem sent_of_mem_deliveries {h : Hub} {d : Delivery} (hd : d ∈ h.deliveries) : d.sent = 0 := by
  obtain ⟨s, -, hof⟩ := mem_deliveries.mp hd
  unfold Delivery.ofSession? at hof
  split at hof
  · obtain ⟨transport, -, rfl⟩ := Option.map_eq_some_iff.mp hof
    rfl
  · cases hof

/-! ### What is reported -/

/-- How many packets of a picture the transport of an entry takes. -/
def takenFor (h : Hub) (picture : Picture) (wall : Rtcp.NtpTime) (s : Session) : Nat :=
  packetsTaken (h.attemptedBy s.conn (.feed picture wall))

section Fed

variable {h : Hub} (hn : h.Numbered) (hcoherent : h.Coherent) {picture : Picture}
  {packets : List Bytes} (hp : h.packetizer.packets picture = .ok packets) (wall : Rtcp.NtpTime)

include hn hcoherent hp

/-- **The counts of a report**: the entries that play, the packets that are taken for them, and the
entries that are gone. -/
theorem fst_feed_of_playing (hplaying : 0 < h.playingCount) :
    (h.feed picture wall).1 = .ok ⟨h.playingCount,
      ((h.sessions.filter (·.isPlaying)).map (h.takenFor picture wall)).sum,
      (h.sessions.filter fun s => (Hub.entry? (h.feed picture wall).2 s.conn).isNone).length⟩ := by
  have hd : h.deliveries ≠ [] := fun hnil =>
    absurd (hcoherent.deliveries_eq_nil_iff.mp hnil) (Nat.ne_of_gt hplaying)
  have hgone : h.sessions.filter
        (fun s => (Hub.entry? (h.feed picture wall).2 s.conn).isNone) =
      h.sessions.filter (Delivery.failedFor (Delivery.sendAll (Rtp.videoClock picture.time) wall
        packets h.deliveries h.media).1) := by
    refine List.filter_congr fun s hs => ?_
    rw [hn.entry?_feed hd hp wall hs]
    split
    · next hfailed => exact hfailed.symm
    · next hkept => exact (Bool.eq_false_iff.mpr hkept).symm
  have hlength : (Delivery.sendAll (Rtp.videoClock picture.time) wall packets h.deliveries
      h.media).1.length = h.playingCount := by
    rw [← hcoherent.length_deliveries, ← List.length_map (·.conn), Delivery.map_conn_sendAll,
      List.length_map]
  have htotal : Delivery.totalSent (Delivery.sendAll (Rtp.videoClock picture.time) wall packets
      h.deliveries h.media).1 =
      ((h.sessions.filter (·.isPlaying)).map (h.takenFor picture wall)).sum := by
    rw [Delivery.totalSent_sendAll _ _ _ hn.nodup_deliveries]
    have hattempted : ∀ conn, packetsTaken (Delivery.attemptedTo (Rtp.videoClock picture.time) wall
        packets conn h.deliveries h.media) =
        packetsTaken (h.attemptedBy conn (.feed picture wall)) := by
      intro conn
      simp only [attemptedBy, hp]
    have hsame : (h.deliveries.map fun d => d.sent + packetsTaken
          (Delivery.attemptedTo (Rtp.videoClock picture.time) wall packets d.conn h.deliveries
            h.media)) =
        (h.deliveries.map (·.conn)).map fun conn =>
          packetsTaken (h.attemptedBy conn (.feed picture wall)) := by
      rw [List.map_map]
      refine List.map_congr_left fun d hd => ?_
      rw [sent_of_mem_deliveries hd, Nat.zero_add, hattempted, Function.comp_apply]
    rw [hsame, hcoherent.map_conn_deliveries, List.map_map]
    rfl
  rw [fst_feed_eq hd hp wall, hgone]
  simp only [hlength, htotal]

/-- **What becomes of an entry that plays.**  Its transport takes the first packets, stamped for its
stream, and refuses the next, or takes them all; in the first case the entry is gone. -/
theorem Owned.feed_taken (hh : h.Owned) {s : Session} (hs : s ∈ h.sessions)
    (hplaying : s.isPlaying = true) :
    let k := h.takenFor picture wall s
    let stamped := s.stream.stamps packets
    ∃ id, s.stream.transport = some id ∧ k ≤ packets.length ∧
      (h.attemptedBy s.conn (.feed picture wall)).filter (·.lane == .data) =
        (stamped.take k).map accepted ++ stamped[k]?.toList.map refused ∧
      (h.feed picture wall).2.media.carriedOn id .data =
        h.media.carriedOn id .data ++ stamped.take k ∧
      (Hub.entry? (h.feed picture wall).2 s.conn = none ↔ k < packets.length) := by
  obtain ⟨d, reports, data, hof, hattempts, hattempted, hgone, hlog⟩ :=
    hh.feed_of_playing hn hcoherent hs hplaying hp wall
  obtain ⟨-, htransport, hssrc, hcounters⟩ := Delivery.of_ofSession? hof
  have hsequence : d.sequence = s.stream.sequence := congrArg Counters.sequence hcounters
  have hk : h.takenFor picture wall s = packetsTaken data := by
    rw [takenFor, hattempts, packetsTaken_append, hattempted.packetsTaken_reports, Nat.zero_add]
  have hdata := hattempted.data_eq hsequence hssrc
  obtain ⟨hle, hlt⟩ := hattempted.packetsTaken_lt_iff hsequence hssrc
  have hreports : reports.filter (·.lane == .data) = [] :=
    List.filter_eq_nil_iff.mpr fun a ha => by simp [(hattempted.report a ha).1]
  intro k stamped
  rw [show k = packetsTaken data from hk]
  refine ⟨d.transport, htransport, hle, ?_, ?_, hgone.trans hlt⟩
  · rw [hattempts, List.filter_append, hreports, List.nil_append,
      List.filter_eq_self.mpr fun a ha => by simp [hattempted.lane_data a ha]]
    exact hdata
  · have hcontrol : ∀ p ∈ carried reports, p.1 = .control := by
      intro p hmem
      obtain ⟨a, ha, rfl⟩ := List.mem_map.mp hmem
      exact (hattempted.report a (List.mem_filter.mp ha).1).1
    have hnone : (carried reports).filter (·.1 == .data) = [] :=
      List.filter_eq_nil_iff.mpr fun p hmem => by simp [hcontrol p hmem]
    have hcarried : (carried (reports ++ data)).filter (·.1 == .data) =
        (stamped.take (packetsTaken data)).map fun octets => (.data, octets) := by
      rw [carried_append, List.filter_append, hnone, List.nil_append, hdata, carried_append,
        carried_map_refused, List.append_nil, carried_map_accepted, ← hdata]
      exact List.filter_eq_self.mpr fun p hmem => by
        obtain ⟨octets, -, rfl⟩ := List.mem_map.mp hmem
        rfl
    rw [Media.carriedOn_eq_log, Media.carriedOn_eq_log, hlog, List.filter_append, hcarried,
      List.map_append, List.map_map]
    exact congrArg (_ ++ ·) (List.map_id _)

end Fed

/-- **A report tells what has become of a picture.**  After any run of a hub that was opened without
connections, whatever picture is sent:

* it is reported as a fault if and only if somebody plays and it cannot be cut; then the fault is
  the one of cutting it, and everything is as it was;
* if nobody plays, nothing is reported of it and nothing happens;
* otherwise the report counts the entries that play, the packets that their transports have taken,
  and the entries that are gone;
* an entry that does not play is as it was;
* the transport of an entry that plays has taken the first packets, stamped for its stream, and they
  are what it carries more of than before; the next packet was refused, if there is one;
* an entry that plays is gone if and only if a packet was refused, that is, unless all were
  taken. -/
theorem feed_accounts (settings : Settings) (authenticator : Option Authenticator)
    (packetizer : Jpeg.Packetizer) (entropy : Entropy) (ports : PortPool)
    (linkFault : Option Text) (operations : List Operation) (picture : Picture)
    (wall : Rtcp.NtpTime) :
    let h := (opened settings authenticator packetizer entropy ports linkFault).run operations
    let report := (h.feed picture wall).1
    let after := (h.feed picture wall).2
    ((∃ fault, report = .error fault) ↔
      0 < h.playingCount ∧ ∃ fault, packetizer.packets picture = .error fault) ∧
    (∀ fault, report = .error fault → packetizer.packets picture = .error fault ∧ after = h) ∧
    (h.playingCount = 0 → report = .ok ⟨0, 0, 0⟩ ∧ after = h) ∧
    ∀ packets, 0 < h.playingCount → packetizer.packets picture = .ok packets →
      report = .ok ⟨h.playingCount,
        ((h.sessions.filter (·.isPlaying)).map (h.takenFor picture wall)).sum,
        (h.sessions.filter fun s => (after.entry? s.conn).isNone).length⟩ ∧
      (∀ s ∈ h.sessions, s.isPlaying = false → after.entry? s.conn = some s) ∧
      ∀ s ∈ h.sessions, s.isPlaying = true →
        let k := h.takenFor picture wall s
        let stamped := s.stream.stamps packets
        ∃ id, s.stream.transport = some id ∧ k ≤ packets.length ∧
          (h.attemptedBy s.conn (.feed picture wall)).filter (·.lane == .data) =
            (stamped.take k).map accepted ++ stamped[k]?.toList.map refused ∧
          after.media.carriedOn id .data = h.media.carriedOn id .data ++ stamped.take k ∧
          (after.entry? s.conn = none ↔ k < packets.length) := by
  intro h report after
  have hn₀ := numbered_opened settings authenticator packetizer entropy ports linkFault
  have hn : h.Numbered := numbered_run hn₀ operations
  have hh : h.Owned :=
    (owned_opened settings authenticator packetizer entropy ports linkFault).run hn₀ operations
  have hcoherent : h.Coherent :=
    (coherent_opened settings authenticator packetizer entropy ports linkFault).run hn₀ operations
  have hpacketizer : h.packetizer = packetizer := packetizer_run hn₀ operations
  have hnobody : h.playingCount = 0 → report = .ok ⟨0, 0, 0⟩ ∧ after = h := by
    intro hnone
    have hd := hcoherent.deliveries_eq_nil_iff.mpr hnone
    exact ⟨fst_feed_of_nobody hd wall, feed_eq_self (Or.inl hd) wall⟩
  have hfault : ∀ fault, report = .error fault →
      0 < h.playingCount ∧ packetizer.packets picture = .error fault ∧ after = h := by
    intro fault hreport
    have hplaying : 0 < h.playingCount := by
      refine Nat.pos_of_ne_zero fun hnone => ?_
      rw [(hnobody hnone).1] at hreport
      cases hreport
    have hd : h.deliveries ≠ [] := fun hnil =>
      absurd (hcoherent.deliveries_eq_nil_iff.mp hnil) (Nat.ne_of_gt hplaying)
    rcases hp : h.packetizer.packets picture with fault' | packets
    · obtain rfl := Except.error.inj ((fst_feed_of_uncut hd hp wall).symm.trans hreport)
      exact ⟨hplaying, hpacketizer ▸ hp, feed_eq_self (Or.inr ⟨_, hp⟩) wall⟩
    · exact absurd ((fst_feed_of_playing hn hcoherent hp wall hplaying).symm.trans hreport) nofun
  refine ⟨⟨?_, ?_⟩, fun fault hreport => (hfault fault hreport).2, hnobody, ?_⟩
  · rintro ⟨fault, hreport⟩
    exact ⟨(hfault fault hreport).1, fault, (hfault fault hreport).2.1⟩
  · rintro ⟨hplaying, fault, hp⟩
    have hd : h.deliveries ≠ [] := fun hnil =>
      absurd (hcoherent.deliveries_eq_nil_iff.mp hnil) (Nat.ne_of_gt hplaying)
    exact ⟨fault, fst_feed_of_uncut hd (hpacketizer.symm ▸ hp) wall⟩
  · intro packets hplaying hp
    have hp' : h.packetizer.packets picture = .ok packets := hpacketizer.symm ▸ hp
    refine ⟨fst_feed_of_playing hn hcoherent hp' wall hplaying, fun s hs hidle => ?_,
      fun s hs hplays => hh.feed_taken hn hcoherent hp' wall hs hplays⟩
    exact hn.entry?_feed_of_none hs (by simp [Delivery.ofSession?, hidle]) picture wall

/-- A picture of seven octets of scan data, without tables. -/
def sevenOctets : Picture := ⟨0, [0xFF, 0xD8, 0xFF, 0xDA, 0, 2, 1, 2, 3, 4, 5, 6, 7], 8, 8⟩

/-- Three connections: the transport of the first takes two packets, that of the second any number,
and the third is not set up. -/
def twoOfThree : List Operation :=
  let peer : SocketAddress := ⟨.v4 127 0 0 1, 4000, 0⟩
  [.connect peer {} 0, .connect peer {} 0, .connect peer {} 0,
    .incident (.made (.memory .udp (some 2) false)), .incident (.made (.memory .udp none false)),
    .setUp 1 0, .setUp 2 1, .play (Entropy.sessionName 0), .play (Entropy.sessionName 1)]

/-- Three packets for two sessions, the first of which takes two of them, are five packets, and one
session is gone. -/
theorem feed_accounts_twoOfThree :
    let packetizer : Jpeg.Packetizer := { mtu := 3 }
    let entropy : Entropy := ⟨UInt16.ofNat, UInt32.ofNat, UInt64.ofNat, 0, 0, 0⟩
    let h := (opened {} none packetizer entropy {} none).run twoOfThree
    let after := (h.feed sevenOctets ⟨0, 0⟩).2
    (h.feed sevenOctets ⟨0, 0⟩).1 = .ok ⟨2, 5, 1⟩ ∧
      ((h.sessions.filter (·.isPlaying)).map (h.takenFor sevenOctets ⟨0, 0⟩)).sum = 5 ∧
      (h.sessions.filter fun s => (after.entry? s.conn).isNone).length = 1 := by
  intro packetizer entropy h after
  have hcut : packetizer.packets sevenOctets =
      .ok [Jpeg.packet packetizer sevenOctets [] 0 false [1, 2, 3],
        Jpeg.packet packetizer sevenOctets [] 3 false [4, 5, 6],
        Jpeg.packet packetizer sevenOctets [] 6 true [7]] := by
    cbv
  have hsame : h.packetizer = packetizer :=
    packetizer_run (numbered_opened {} none packetizer entropy {} none) twoOfThree
  have hreport : (h.feed sevenOctets ⟨0, 0⟩).1 = .ok ⟨2, 5, 1⟩ := by
    rw [fst_feed_eq (by decide) (hsame ▸ hcut)]
    decide
  obtain ⟨hcounts, -⟩ := (feed_accounts {} none packetizer entropy {} none twoOfThree sevenOctets
    ⟨0, 0⟩).2.2.2 _ (by decide) hcut
  obtain ⟨-, hsum, hgone⟩ := FeedReport.mk.inj (Except.ok.inj (hcounts.symm.trans hreport))
  exact ⟨hreport, hsum, hgone⟩

end Hub

end RtspServer
