/-
RtspServer/Proofs/Attempt.lean

Every write that is made when a picture is sent, report or packet, taken or not,
in the order in which they are made.  For one delivery this is the sender
report, if it is due, and then the packets up to the first that is not taken.

The transport of a delivery carries, after what it carried before, exactly the
writes that it takes, in this order and on their lanes (`Delivery.log_send`).
What else is sent meanwhile goes to other transports (`Delivery.exists_attempts`).
-/
import RtspServer.Proofs.Continuity
import RtspServer.Proofs.PacketFormats

namespace RtspServer

/-- A write to a transport, and whether the transport has taken it. -/
structure Attempt where
  lane : Lane
  octets : Bytes
  taken : Bool
  deriving DecidableEq, Repr

namespace Attempt

/-- What a transport has carried after some attempts, if it carried nothing before. -/
def carried (l : List Attempt) : List (Lane × Bytes) :=
  (l.filter (·.taken)).map fun a => (a.lane, a.octets)

theorem carried_append (l l' : List Attempt) : carried (l ++ l') = carried l ++ carried l' := by
  simp [carried]

/-- The packets among some attempts. -/
def packets (l : List Attempt) : List Bytes := (l.filter (·.lane == .data)).map (·.octets)

theorem packets_append (l l' : List Attempt) : packets (l ++ l') = packets l ++ packets l' := by
  simp [packets]

/-- Has every report among some attempts been refused? -/
def NoReport (l : List Attempt) : Prop := ∀ a ∈ l, a.lane = .control → a.taken = false

/-- Has every packet among some attempts been taken? -/
def AllPackets (l : List Attempt) : Prop := ∀ a ∈ l, a.lane = .data → a.taken = true

theorem noReport_append {l l' : List Attempt} :
    NoReport (l ++ l') ↔ NoReport l ∧ NoReport l' :=
  List.forall_mem_append

theorem allPackets_append {l l' : List Attempt} :
    AllPackets (l ++ l') ↔ AllPackets l ∧ AllPackets l' :=
  List.forall_mem_append

end Attempt

namespace Delivery

/-! ### One delivery -/

/-- The attempt to send the sender report, if it is due. -/
def reportAttempts (clock : UInt32) (wall : Rtcp.NtpTime) (d : Delivery) (m : Media) :
    List Attempt :=
  if d.reportDue then
    [⟨.control, (d.senderReport clock wall).write,
      (m.send d.transport .control (d.senderReport clock wall).write).isOk⟩]
  else []

/-- The attempts to send packets, up to the first that is not taken. -/
def dataAttempts (state : Delivery × Media) : List Bytes → List Attempt
  | [] => []
  | packet :: rest =>
    if state.1.failed then []
    else
      ⟨.data, state.1.stamped packet,
          (state.2.send state.1.transport .data (state.1.stamped packet)).isOk⟩ ::
        dataAttempts (sendPacket state packet) rest

/-- All attempts of a delivery. -/
def attempts (clock : UInt32) (wall : Rtcp.NtpTime) (packets : List Bytes) (d : Delivery)
    (m : Media) : List Attempt :=
  d.reportAttempts clock wall m ++ dataAttempts (d.sendReport clock wall m) packets

/-- What one packet does to a delivery that has not failed, and to its transport. -/
theorem sendPacket_cases {state : Delivery × Media} (hf : state.1.failed = false)
    (packet : Bytes) :
    let octets := state.1.stamped packet
    ((state.2.send state.1.transport .data octets).isOk = false ∧
        (sendPacket state packet).1.failed = true ∧ (sendPacket state packet).2 = state.2) ∨
      ((state.2.send state.1.transport .data octets).isOk = true ∧
        (sendPacket state packet).1.failed = false ∧
        state.2.send state.1.transport .data octets = .ok (sendPacket state packet).2) := by
  obtain ⟨d, m⟩ := state
  have hf : d.failed = false := hf
  intro octets
  rcases hsend : m.send d.transport .data octets with fault | m'
  · refine Or.inl ⟨rfl, ?_, ?_⟩ <;> simp [sendPacket, hf, hsend, octets]
  · refine Or.inr ⟨rfl, ?_, ?_⟩
    · simp [sendPacket, hf, hsend, octets, count]
    · simp [sendPacket, hf, hsend, octets]

theorem dataAttempts_of_failed {state : Delivery × Media} (hf : state.1.failed = true)
    (packets : List Bytes) : dataAttempts state packets = [] := by
  cases packets with
  | nil => rfl
  | cons packet rest => exact if_pos hf

theorem dataAttempts_cons {state : Delivery × Media} (hf : state.1.failed = false)
    (packet : Bytes) (rest : List Bytes) :
    dataAttempts state (packet :: rest) =
      ⟨.data, state.1.stamped packet,
          (state.2.send state.1.transport .data (state.1.stamped packet)).isOk⟩ ::
        dataAttempts (sendPacket state packet) rest :=
  if_neg (by simp [hf])

/-- The packets that are attempted are those that are handed over. -/
theorem octets_dataAttempts (packets : List Bytes) (state : Delivery × Media) :
    (∀ a ∈ dataAttempts state packets, a.lane = .data) ∧
      (dataAttempts state packets).map (·.octets) = (handovers state packets).map (·.octets) := by
  induction packets generalizing state with
  | nil => exact ⟨fun _ ha => absurd ha List.not_mem_nil, rfl⟩
  | cons packet rest ih =>
    rw [dataAttempts, handovers]
    split
    · exact ⟨fun _ ha => absurd ha List.not_mem_nil, rfl⟩
    · obtain ⟨hlane, hoctets⟩ := ih (sendPacket state packet)
      exact ⟨List.forall_mem_cons.mpr ⟨rfl, hlane⟩, by rw [List.map_cons, List.map_cons, hoctets]⟩

/-- A packet that is not taken is the last, and then the delivery has failed. -/
theorem taken_dataAttempts (packets : List Bytes) {state : Delivery × Media}
    (hf : state.1.failed = false) :
    (∀ a ∈ (dataAttempts state packets).dropLast, a.taken = true) ∧
      ((packets.foldl sendPacket state).1.failed = true ↔
        ∃ a ∈ dataAttempts state packets, a.taken = false) := by
  induction packets generalizing state with
  | nil => simp [dataAttempts, hf]
  | cons packet rest ih =>
    rw [dataAttempts_cons hf, List.foldl_cons]
    rcases sendPacket_cases hf packet with ⟨htaken, hfailed, -⟩ | ⟨htaken, hfailed, -⟩ <;>
      rw [htaken]
    · rw [dataAttempts_of_failed hfailed, foldl_sendPacket_of_failed hfailed]
      simp [hfailed]
    · obtain ⟨hlast, hfails⟩ := ih hfailed
      rw [hfails]
      constructor
      · rcases hrest : dataAttempts (sendPacket state packet) rest with - | ⟨b, l⟩
        · simp
        · rw [List.dropLast_cons_cons]
          exact List.forall_mem_cons.mpr ⟨rfl, hrest ▸ hlast⟩
      · simp

/-- The attempts of a delivery that has not failed are its packets from the first one on, stamped
one after the other, and all of them if all are taken. -/
theorem getElem?_dataAttempts (packets : List Bytes) {state : Delivery × Media}
    (hf : state.1.failed = false) :
    (∀ i a, (dataAttempts state packets)[i]? = some a → ∃ packet, packets[i]? = some packet ∧
      a.octets = Rtp.stamp packet (state.1.sequence + UInt16.ofNat i) state.1.ssrc) ∧
    ((∀ a ∈ dataAttempts state packets, a.taken = true) →
      (dataAttempts state packets).length = packets.length) := by
  have hoctets := (octets_dataAttempts packets state).2
  have hlength := congrArg List.length hoctets
  rw [List.length_map, List.length_map] at hlength
  obtain ⟨hbegin, hall⟩ := isPrefix_handovers packets state
  constructor
  · intro i a ha
    obtain ⟨x, hx, hxa⟩ : ∃ x, (handovers state packets)[i]? = some x ∧ x.octets = a.octets := by
      have := congrArg (·[i]?) hoctets
      simp only [List.getElem?_map, ha, Option.map_some] at this
      exact Option.map_eq_some_iff.mp this.symm
    refine ⟨x.packet, ?_, hxa ▸ (sent_foldl_sendPacket packets state).stamped i x hx⟩
    obtain ⟨rest, hrest⟩ := hbegin
    have hi : i < ((handovers state packets).map (·.packet)).length := by
      rw [List.length_map]
      exact (List.getElem?_eq_some_iff.mp hx).1
    rw [← hrest, List.getElem?_append_left hi, List.getElem?_map, hx]
    rfl
  · intro htaken
    have hkept : (packets.foldl sendPacket state).1.failed = false := by
      rw [← Bool.not_eq_true, (taken_dataAttempts packets hf).2]
      rintro ⟨a, ha, hrefused⟩
      exact absurd ((htaken a ha).symm.trans hrefused) (by decide)
    rw [hlength, ← List.length_map (·.packet), hall hkept]

/-- What the transport carries of the packets is what it takes. -/
theorem log_foldl_sendPacket (packets : List Bytes) (state : Delivery × Media)
    (id : TransportId) :
    (packets.foldl sendPacket state).2.log id = state.2.log id ++
      if state.1.transport = id then Attempt.carried (dataAttempts state packets) else [] := by
  induction packets generalizing state with
  | nil => simp [dataAttempts, Attempt.carried]
  | cons packet rest ih =>
    cases hf : state.1.failed with
    | true =>
      rw [foldl_sendPacket_of_failed hf, dataAttempts_of_failed hf]
      simp [Attempt.carried]
    | false =>
      have htransport := (sent_sendPacket hf packet).transport
      rw [List.foldl_cons, ih, htransport, dataAttempts_cons hf]
      rcases sendPacket_cases hf packet with ⟨htaken, -, hmedia⟩ | ⟨htaken, -, hsend⟩ <;>
        rw [htaken]
      · rw [hmedia]
        simp [Attempt.carried]
      · rw [Media.log_send hsend, List.append_assoc]
        split <;> simp [Attempt.carried]

section Send

variable (clock : UInt32) (wall : Rtcp.NtpTime) (packets : List Bytes)

/-- The report is not due any more if the transport takes it, and the transport carries it then. -/
theorem sendReport_cases (d : Delivery) (m : Media) :
    ((d.sendReport clock wall m).1.reportDue = true ↔
      d.reportDue = true ∧ Attempt.NoReport (d.reportAttempts clock wall m)) ∧
    ∀ id, (d.sendReport clock wall m).2.log id = m.log id ++
      if d.transport = id then Attempt.carried (d.reportAttempts clock wall m) else [] := by
  unfold sendReport reportAttempts
  split
  · next hdue =>
    rcases hsend : m.send d.transport .control (d.senderReport clock wall).write with fault | m'
    · simp [hdue, Attempt.NoReport, Attempt.carried, Except.isOk, Except.toBool]
    · refine ⟨by simp [Attempt.NoReport, Except.isOk, Except.toBool], fun id => ?_⟩
      rw [Media.log_send hsend]
      simp [Attempt.carried, Except.isOk, Except.toBool]
  · next hdue => simp [hdue, Attempt.NoReport, Attempt.carried]

theorem reportDue_foldl_sendPacket (state : Delivery × Media) :
    (packets.foldl sendPacket state).1.reportDue = state.1.reportDue := by
  induction packets generalizing state with
  | nil => rfl
  | cons packet rest ih =>
    rw [List.foldl_cons, ih]
    simp only [sendPacket]
    (repeat' split) <;> rfl

/-- The attempts of a delivery are the report, if it is due, and then packets from the first one on,
up to the first that is not taken, whatever becomes of the report. -/
structure Attempted (d : Delivery) (reports data : List Attempt) : Prop where
  once : reports.length ≤ 1
  due : reports ≠ [] ↔ d.reportDue = true
  report : ∀ a ∈ reports, a.lane = .control ∧ a.octets = (d.senderReport clock wall).write
  packet : ∀ i a, data[i]? = some a → a.lane = .data ∧ ∃ packet, packets[i]? = some packet ∧
    a.octets = Rtp.stamp packet (d.sequence + UInt16.ofNat i) d.ssrc
  taken : ∀ a ∈ data.dropLast, a.taken = true
  whole : (∀ a ∈ data, a.taken = true) → data.length = packets.length

namespace Attempted

variable {clock wall packets} {d : Delivery} {reports data : List Attempt}

theorem lane_data (h : d.Attempted clock wall packets reports data) :
    ∀ a ∈ data, a.lane = .data := by
  intro a ha
  obtain ⟨i, hi⟩ := List.mem_iff_getElem?.mp ha
  exact (h.packet i a hi).1

/-- Only the reports matter for what becomes of the report. -/
theorem noReport_iff (h : d.Attempted clock wall packets reports data) :
    Attempt.NoReport (reports ++ data) ↔ Attempt.NoReport reports := by
  rw [Attempt.noReport_append]
  refine and_iff_left fun a ha hlane => ?_
  exact absurd ((h.lane_data a ha).symm.trans hlane) (by decide)

/-- Only the packets matter for what becomes of the entry. -/
theorem allPackets_iff (h : d.Attempted clock wall packets reports data) :
    Attempt.AllPackets (reports ++ data) ↔ ∀ a ∈ data, a.taken = true := by
  rw [Attempt.allPackets_append]
  constructor
  · exact fun ⟨_, hall⟩ a ha => hall a ha (h.lane_data a ha)
  · refine fun hall => ⟨fun a ha hlane => ?_, fun a ha _ => hall a ha⟩
    exact absurd ((h.report a ha).1.symm.trans hlane) (by decide)

end Attempted

theorem attempts_split {d : Delivery} (hf : d.failed = false) (m : Media) :
    ∃ reports data, d.attempts clock wall packets m = reports ++ data ∧
      d.Attempted clock wall packets reports data := by
  have hreport := sent_sendReport clock wall d m
  have hcounters : (d.sendReport clock wall m).1.counters = d.counters := by
    simpa using hreport.counters
  have hsequence : (d.sendReport clock wall m).1.sequence = d.sequence :=
    congrArg Counters.sequence hcounters
  have hfailed := (failed_sendReport clock wall d m).trans hf
  obtain ⟨hpacket, hwhole⟩ := getElem?_dataAttempts packets hfailed
  rw [hsequence, hreport.ssrc] at hpacket
  have hlane := (octets_dataAttempts packets (d.sendReport clock wall m)).1
  refine ⟨_, _, rfl, ?_, ?_, ?_, fun i a ha => ⟨hlane a (List.mem_of_getElem? ha), hpacket i a ha⟩,
    (taken_dataAttempts packets hfailed).1, hwhole⟩
  all_goals
    unfold reportAttempts
    split
  · exact Nat.le_refl 1
  · exact Nat.zero_le 1
  · next hdue => simp [hdue]
  · next hdue => simp [hdue]
  · exact List.forall_mem_singleton.mpr ⟨rfl, rfl⟩
  · exact fun _ ha => absurd ha List.not_mem_nil

/-- **The transport of a delivery carries the attempts that it takes**, in the order in which they
are made, and no other transport carries anything. -/
theorem log_send (d : Delivery) (m : Media) (id : TransportId) :
    (d.send clock wall packets m).2.log id = m.log id ++
      if d.transport = id then Attempt.carried (d.attempts clock wall packets m) else [] := by
  rw [send, log_foldl_sendPacket, (sent_sendReport clock wall d m).transport,
    (sendReport_cases clock wall d m).2, List.append_assoc, attempts, Attempt.carried_append]
  split <;> simp

theorem reportDue_send (d : Delivery) (m : Media) :
    (d.send clock wall packets m).1.reportDue = true ↔
      d.reportDue = true ∧ Attempt.NoReport (d.attempts clock wall packets m) := by
  rw [send, reportDue_foldl_sendPacket, (sendReport_cases clock wall d m).1]
  refine and_congr_right fun _ => ⟨fun h a ha hlane => ?_, fun h a ha => ?_⟩
  · -- a packet is no report
    rcases List.mem_append.mp ha with ha | ha
    · exact h a ha hlane
    · exact absurd (((octets_dataAttempts packets _).1 a ha).symm.trans hlane) (by decide)
  · exact h a (List.mem_append_left _ ha)

/-- A delivery fails if a packet is not taken, and whatever becomes of the report. -/
theorem failed_send {d : Delivery} (hf : d.failed = false) (m : Media) :
    (d.send clock wall packets m).1.failed = true ↔
      ¬Attempt.AllPackets (d.attempts clock wall packets m) := by
  have hlane := (octets_dataAttempts packets (d.sendReport clock wall m)).1
  rw [send, (taken_dataAttempts packets ((failed_sendReport clock wall d m).trans hf)).2]
  constructor
  · rintro ⟨a, ha, hrefused⟩ hall
    have htaken := hall a (List.mem_append_right _ ha) (hlane a ha)
    exact absurd (htaken.symm.trans hrefused) (by decide)
  · intro hnot
    by_contra hnone
    refine hnot fun a ha hdata => ?_
    rcases List.mem_append.mp ha with ha | ha
    · unfold reportAttempts at ha
      split at ha
      · rw [List.mem_singleton.mp ha] at hdata
        cases hdata
      · exact absurd ha List.not_mem_nil
    · rcases htaken : a.taken with _ | _
      · exact absurd ⟨a, ha, htaken⟩ hnone
      · rfl

theorem packets_attempts (d : Delivery) (m : Media) :
    Attempt.packets (d.attempts clock wall packets m) =
      (handovers (d.sendReport clock wall m) packets).map (·.octets) := by
  obtain ⟨hlane, hoctets⟩ := octets_dataAttempts packets (d.sendReport clock wall m)
  have hreports : Attempt.packets (d.reportAttempts clock wall m) = [] := by
    unfold reportAttempts
    split <;> rfl
  rw [attempts, Attempt.packets_append, hreports, List.nil_append, Attempt.packets,
    List.filter_eq_self.mpr fun a ha => by simp [hlane a ha], hoctets]

/-! ### All deliveries -/

/-- The attempts for one connection when packets are sent from all deliveries. -/
def attemptedTo (conn : ConnId) : List Delivery → Media → List Attempt
  | [], _ => []
  | d :: rest, m =>
    (if d.conn = conn then d.attempts clock wall packets m else []) ++
      attemptedTo conn rest (d.send clock wall packets m).2

theorem attemptedTo_eq_nil {conn : ConnId} {deliveries : List Delivery}
    (hc : ∀ d ∈ deliveries, d.conn ≠ conn) (m : Media) :
    attemptedTo clock wall packets conn deliveries m = [] := by
  induction deliveries generalizing m with
  | nil => rfl
  | cons d rest ih =>
    rw [attemptedTo, if_neg (hc d List.mem_cons_self),
      ih (fun e he => hc e (List.mem_cons_of_mem _ he))]
    rfl

theorem packets_attemptedTo (conn : ConnId) (deliveries : List Delivery) (m : Media) :
    Attempt.packets (attemptedTo clock wall packets conn deliveries m) =
      (handedTo clock wall packets conn deliveries m).map (·.octets) := by
  induction deliveries generalizing m with
  | nil => rfl
  | cons d rest ih =>
    rw [attemptedTo, handedTo, Attempt.packets_append, ih, List.map_append]
    split
    · rw [packets_attempts]
    · rfl

theorem log_sendAll_of_ne {id : TransportId} {deliveries : List Delivery}
    (hne : ∀ d ∈ deliveries, d.transport ≠ id) (m : Media) :
    (sendAll clock wall packets deliveries m).2.log id = m.log id := by
  induction deliveries generalizing m with
  | nil => rfl
  | cons d rest ih =>
    simp only [sendAll]
    rw [ih (fun e he => hne e (List.mem_cons_of_mem _ he)), log_send,
      if_neg (hne d List.mem_cons_self), List.append_nil]

/-- With one delivery for each connection and each transport, what is attempted for a connection is
what its delivery attempts when its turn comes, and that is what its transport gets. -/
theorem exists_attempts {deliveries : List Delivery} (hconns : (deliveries.map (·.conn)).Nodup)
    (htransports : (deliveries.map (·.transport)).Nodup) (m : Media) {d : Delivery}
    (hd : d ∈ deliveries) :
    ∃ turn : Media,
      attemptedTo clock wall packets d.conn deliveries m = d.attempts clock wall packets turn ∧
      handedTo clock wall packets d.conn deliveries m =
        handovers (d.sendReport clock wall turn) packets ∧
      (d.send clock wall packets turn).1 ∈ (sendAll clock wall packets deliveries m).1 ∧
      (sendAll clock wall packets deliveries m).2.log d.transport =
        m.log d.transport ++ Attempt.carried (d.attempts clock wall packets turn) := by
  induction deliveries generalizing m with
  | nil => cases hd
  | cons e rest ih =>
    rw [List.map_cons, List.nodup_cons] at hconns htransports
    obtain ⟨hconn, hconns⟩ := hconns
    obtain ⟨htransport, htransports⟩ := htransports
    rcases List.mem_cons.mp hd with rfl | hd
    · -- the others have other connections and leave its transport alone
      have hother : ∀ e ∈ rest, e.conn ≠ d.conn := fun e he hc =>
        hconn (List.mem_map.mpr ⟨e, he, hc⟩)
      have hapart : ∀ e ∈ rest, e.transport ≠ d.transport := fun e he ht =>
        htransport (List.mem_map.mpr ⟨e, he, ht⟩)
      refine ⟨m, ?_, ?_, List.mem_cons_self, ?_⟩
      · rw [attemptedTo, if_pos rfl, attemptedTo_eq_nil _ _ _ hother, List.append_nil]
      · rw [handedTo, if_pos rfl, handedTo_eq_nil _ _ _ hother, List.append_nil]
      · simp only [sendAll]
        rw [log_sendAll_of_ne _ _ _ hapart, log_send, if_pos rfl]
    · have hother : e.conn ≠ d.conn := fun hc => hconn (List.mem_map.mpr ⟨d, hd, hc.symm⟩)
      have hapart : e.transport ≠ d.transport := fun ht =>
        htransport (List.mem_map.mpr ⟨d, hd, ht.symm⟩)
      obtain ⟨turn, hattempts, hhanded, hmem, hlog⟩ :=
        ih hconns htransports (e.send clock wall packets m).2 hd
      refine ⟨turn, ?_, ?_, List.mem_cons_of_mem _ hmem, ?_⟩
      · rw [attemptedTo, if_neg hother, hattempts, List.nil_append]
      · rw [handedTo, if_neg hother, hhanded, List.nil_append]
      · simp only [sendAll]
        rw [hlog, log_send, if_neg hapart, List.append_nil]

end Send

end Delivery

namespace Hub

/-- What an operation attempts to write for a connection. -/
def attemptedBy (h : Hub) (conn : ConnId) : Operation → List Attempt
  | .feed picture wall =>
    match h.packetizer.packets picture with
    | .ok packets =>
      Delivery.attemptedTo (Rtp.videoClock picture.time) wall packets conn h.deliveries h.media
    | .error _ => []
  | _ => []

theorem attemptedBy_of_quiet (h : Hub) (conn : ConnId) {o : Operation} (ho : o.isQuiet = true) :
    h.attemptedBy conn o = [] := by
  cases o with
  | feed picture wall => cases ho
  | _ => rfl

/-- The packets that an operation attempts are those that it hands over. -/
theorem packets_attemptedBy (h : Hub) (conn : ConnId) (o : Operation) :
    Attempt.packets (h.attemptedBy conn o) = (h.handedBy conn o).map (·.octets) := by
  cases o with
  | feed picture wall =>
    rcases hp : h.packetizer.packets picture with fault | packets
    · simp [attemptedBy, handedBy, hp, Attempt.packets]
    · simp only [attemptedBy, handedBy, hp]
      exact Delivery.packets_attemptedTo ..
  | _ => rfl

/-- **What a feed attempts for an entry that plays** is what its delivery attempts, and that is what
its transport gets. -/
theorem Owned.attempts_of_playing {h : Hub} (hn : h.Numbered) (hh : h.Owned) {s : Session}
    (hs : s ∈ h.sessions) {d : Delivery} (hof : Delivery.ofSession? s = some d)
    {picture : Picture} {packets : List Bytes} (hp : h.packetizer.packets picture = .ok packets)
    (wall : Rtcp.NtpTime) :
    ∃ turn : Media, h.attemptedBy s.conn (.feed picture wall) =
        d.attempts (Rtp.videoClock picture.time) wall packets turn ∧
      (h.feed picture wall).2.media.log d.transport = h.media.log d.transport ++
        Attempt.carried (d.attempts (Rtp.videoClock picture.time) wall packets turn) := by
  have hmem : d ∈ h.deliveries := mem_deliveries.mpr ⟨s, hs, hof⟩
  obtain ⟨turn, hattempts, -, -, hlog⟩ := Delivery.exists_attempts
    (Rtp.videoClock picture.time) wall packets hn.nodup_deliveries (hh.nodup_deliveries hn)
    h.media hmem
  rw [(Delivery.of_ofSession? hof).1] at hattempts
  refine ⟨turn, by simp only [attemptedBy, hp, hattempts], ?_⟩
  rw [feed_eq (List.ne_nil_of_mem hmem) hp]
  -- concluding stops transports, and they keep what they have carried
  rw [← hlog]
  exact congrFun (Media.log_congr (map_carried_letGoAll _ _ _)) d.transport

end Hub

end RtspServer
