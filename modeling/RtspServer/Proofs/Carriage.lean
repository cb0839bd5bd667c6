/-
RtspServer/Proofs/Carriage.lean

What the transports carry.  A transport carries the packets that it is sent and
takes, on the lane they are sent on, and nothing else (`Media.log_send`).

So the data packets a transport carries while a picture is sent to everyone are
those handed over by the delivery that uses it, except that the last may have
been refused (`Delivery.carriedOn_sendAll`).  Reports go out on the other lane,
and other deliveries use other transports.
-/
import RtspServer.Proofs.Handover

namespace RtspServer

namespace Media

/-- What a transport has carried on a lane, the first packet first. -/
def carriedOn (m : Media) (id : TransportId) (lane : Lane) : List Bytes :=
  (m.transports[id]?.map (·.carriedOn lane)).getD []

/-- What a transport has carried on both lanes, the first packet first. -/
def log (m : Media) (id : TransportId) : List (Lane × Bytes) :=
  (m.transports[id]?.map (·.carried.reverse)).getD []

theorem carriedOn_eq_log (m : Media) (id : TransportId) (lane : Lane) :
    m.carriedOn id lane = ((m.log id).filter (·.1 == lane)).map (·.2) := by
  unfold carriedOn log
  rcases m.transports[id]? with - | t
  · rfl
  · simp [Transport.carriedOn, List.filter_reverse]

theorem log_congr {m m' : Media}
    (h : m'.transports.map (·.carried) = m.transports.map (·.carried)) : m'.log = m.log := by
  funext id
  have hid : m'.transports[id]?.map (·.carried) = m.transports[id]?.map (·.carried) := by
    rw [← List.getElem?_map, ← List.getElem?_map, h]
  have hreverse := congrArg (Option.map List.reverse) hid
  rw [Option.map_map, Option.map_map] at hreverse
  exact congrArg (·.getD []) hreverse

theorem carriedOn_congr {m m' : Media}
    (h : m'.transports.map (·.carried) = m.transports.map (·.carried)) :
    m'.carriedOn = m.carriedOn := by
  funext id lane
  rw [carriedOn_eq_log, carriedOn_eq_log, log_congr h]

theorem log_noteCarried {m : Media} {id : TransportId} (hid : id < m.transports.length)
    (lane : Lane) (packet : Bytes) (other : TransportId) :
    (m.noteCarried id lane packet).log other =
      m.log other ++ if id = other then [(lane, packet)] else [] := by
  rw [log, noteCarried, getElem?_updateTransport, log]
  by_cases hother : id = other
  · subst hother
    rw [List.getElem?_eq_getElem hid]
    simp
  · rcases m.transports[other]? with - | t <;> simp [hother]

/-- **A transport that takes a packet has carried it**, and no other one has. -/
theorem log_send {m m' : Media} {id : TransportId} {lane : Lane} {packet : Bytes}
    (h : m.send id lane packet = .ok m') (other : TransportId) :
    m'.log other = m.log other ++ if id = other then [(lane, packet)] else [] := by
  obtain ⟨m₁, rfl, -, hid, hcarried⟩ := exists_of_send h
  have hid₁ : id < m₁.transports.length := by
    have hlength := congrArg List.length hcarried
    rw [List.length_map, List.length_map] at hlength
    rwa [hlength]
  rw [log_noteCarried hid₁, log_congr hcarried]

theorem carriedOn_send {m m' : Media} {id : TransportId} {lane : Lane} {packet : Bytes}
    (h : m.send id lane packet = .ok m') (other : TransportId) (lane' : Lane) :
    m'.carriedOn other lane' =
      m.carriedOn other lane' ++ if id = other ∧ lane = lane' then [packet] else [] := by
  rw [carriedOn_eq_log, carriedOn_eq_log, log_send h]
  by_cases hother : id = other <;> by_cases hlane : lane = lane' <;> simp [hother, hlane]

end Media

namespace Delivery

/-! ### One delivery -/

/-- A report is no data packet. -/
theorem carriedOn_sendReport (clock : UInt32) (wall : Rtcp.NtpTime) (d : Delivery) (m : Media)
    (id : TransportId) :
    (d.sendReport clock wall m).2.carriedOn id .data = m.carriedOn id .data := by
  unfold sendReport
  split
  · split
    · next hsend => rw [Media.carriedOn_send hsend, if_neg (fun h => nomatch h.2), List.append_nil]
    · rfl
  · rfl

/-- Handovers are what the transport gets.  It has carried all of them after what it carried
before, except that the last one may have been refused, and then the delivery has failed. -/
theorem carriedOn_foldl_sendPacket (packets : List Bytes) (state : Delivery × Media) :
    ∃ refused, refused.length ≤ 1 ∧
      ((packets.foldl sendPacket state).1.failed = false → refused = []) ∧
      (packets.foldl sendPacket state).2.carriedOn state.1.transport .data ++ refused =
        state.2.carriedOn state.1.transport .data ++ (handovers state packets).map (·.octets) := by
  induction packets generalizing state with
  | nil => exact ⟨[], Nat.zero_le _, fun _ => rfl, rfl⟩
  | cons packet rest ih =>
    cases hf : state.1.failed with
    | true =>
      rw [foldl_sendPacket_of_failed hf, handovers, if_pos hf]
      exact ⟨[], Nat.zero_le _, fun _ => rfl, rfl⟩
    | false =>
      rw [handovers, if_neg (by simp [hf]), List.map_cons, List.foldl_cons]
      have htransport := (sent_sendPacket hf packet).transport
      obtain ⟨d, m⟩ := state
      have hf : d.failed = false := hf
      rcases hsend : m.send d.transport .data (d.stamped packet) with fault | m'
      · -- refused: the delivery has failed, and the rest of the packets is dropped
        have hstep : sendPacket (d, m) packet = ({ d.count packet with failed := true }, m) := by
          simp [sendPacket, hf, hsend]
        have hdone : (sendPacket (d, m) packet).1.failed = true := by rw [hstep]
        have hnone : handovers (sendPacket (d, m) packet) rest = [] := by
          cases rest with
          | nil => rfl
          | cons _ _ => exact if_pos hdone
        rw [foldl_sendPacket_of_failed hdone, hnone]
        refine ⟨[d.stamped packet], Nat.le_refl _, fun h => ?_, ?_⟩
        · rw [hdone] at h
          cases h
        · rw [hstep]
          rfl
      · have hstep : (sendPacket (d, m) packet).2 = m' := by simp [sendPacket, hf, hsend]
        obtain ⟨refused, hlength, hnone, hcarried⟩ := ih (sendPacket (d, m) packet)
        refine ⟨refused, hlength, hnone, ?_⟩
        rw [htransport] at hcarried
        rw [hcarried, hstep, Media.carriedOn_send hsend, if_pos ⟨rfl, rfl⟩, List.append_assoc]
        rfl

theorem carriedOn_foldl_sendPacket_of_ne {id : TransportId} (packets : List Bytes)
    {state : Delivery × Media} (hne : state.1.transport ≠ id) :
    (packets.foldl sendPacket state).2.carriedOn id .data = state.2.carriedOn id .data := by
  induction packets generalizing state with
  | nil => rfl
  | cons packet rest ih =>
    cases hf : state.1.failed with
    | true => rw [foldl_sendPacket_of_failed hf]
    | false =>
      have htransport := (sent_sendPacket hf packet).transport
      rw [List.foldl_cons, ih (htransport ▸ hne)]
      obtain ⟨d, m⟩ := state
      have hf : d.failed = false := hf
      have hne : d.transport ≠ id := hne
      simp only [sendPacket, hf, Bool.false_eq_true, if_false]
      split
      · next hsend =>
        rw [Media.carriedOn_send hsend, if_neg (fun h => hne h.1), List.append_nil]
      · rfl

section Send

variable (clock : UInt32) (wall : Rtcp.NtpTime) (packets : List Bytes)

/-- What a delivery hands over is what its transport carries, one refused packet apart. -/
theorem carriedOn_send (d : Delivery) (m : Media) :
    ∃ refused, refused.length ≤ 1 ∧
      ((d.send clock wall packets m).1.failed = false → refused = []) ∧
      (d.send clock wall packets m).2.carriedOn d.transport .data ++ refused =
        m.carriedOn d.transport .data ++
          (handovers (d.sendReport clock wall m) packets).map (·.octets) := by
  have hreport := carriedOn_sendReport clock wall d m d.transport
  have htransport := (sent_sendReport clock wall d m).transport
  have hcarried := carriedOn_foldl_sendPacket packets (d.sendReport clock wall m)
  rw [htransport, hreport] at hcarried
  exact hcarried

theorem carriedOn_send_of_ne {d : Delivery} {id : TransportId} (hne : d.transport ≠ id)
    (m : Media) : (d.send clock wall packets m).2.carriedOn id .data = m.carriedOn id .data := by
  have htransport := (sent_sendReport clock wall d m).transport
  rw [send, carriedOn_foldl_sendPacket_of_ne packets (htransport ▸ hne), carriedOn_sendReport]

/-! ### All deliveries -/

theorem carriedOn_sendAll_of_ne {id : TransportId} {deliveries : List Delivery}
    (hne : ∀ d ∈ deliveries, d.transport ≠ id) (m : Media) :
    (sendAll clock wall packets deliveries m).2.carriedOn id .data = m.carriedOn id .data := by
  induction deliveries generalizing m with
  | nil => rfl
  | cons d rest ih =>
    simp only [sendAll]
    rw [ih (fun e he => hne e (List.mem_cons_of_mem _ he)),
      carriedOn_send_of_ne clock wall packets (hne d List.mem_cons_self)]

/-- **What is handed over for a connection is what its transport carries**, one refused packet
apart, as long as no two deliveries are to the same connection or use the same transport. -/
theorem carriedOn_sendAll {deliveries : List Delivery}
    (hconns : (deliveries.map (·.conn)).Nodup) (htransports : (deliveries.map (·.transport)).Nodup)
    (m : Media) {d : Delivery} (hd : d ∈ deliveries) :
    ∃ refused, refused.length ≤ 1 ∧
      (sendAll clock wall packets deliveries m).2.carriedOn d.transport .data ++ refused =
        m.carriedOn d.transport .data ++
          (handedTo clock wall packets d.conn deliveries m).map (·.octets) := by
  induction deliveries generalizing m with
  | nil => cases hd
  | cons e rest ih =>
    rw [List.map_cons, List.nodup_cons] at hconns htransports
    obtain ⟨hconn, hconns⟩ := hconns
    obtain ⟨htransport, htransports⟩ := htransports
    simp only [sendAll]
    rcases List.mem_cons.mp hd with rfl | hd
    · -- the others leave its transport alone
      have hother : ∀ e ∈ rest, e.conn ≠ d.conn := fun e he hc =>
        hconn (List.mem_map.mpr ⟨e, he, hc⟩)
      have hapart : ∀ e ∈ rest, e.transport ≠ d.transport := fun e he ht =>
        htransport (List.mem_map.mpr ⟨e, he, ht⟩)
      obtain ⟨refused, hlength, -, hcarried⟩ := carriedOn_send clock wall packets d m
      refine ⟨refused, hlength, ?_⟩
      rw [carriedOn_sendAll_of_ne clock wall packets hapart, hcarried, handedTo, if_pos rfl,
        handedTo_eq_nil clock wall packets hother, List.append_nil]
    · have hother : e.conn ≠ d.conn := fun hc => hconn (List.mem_map.mpr ⟨d, hd, hc.symm⟩)
      have hapart : e.transport ≠ d.transport := fun ht =>
        htransport (List.mem_map.mpr ⟨d, hd, ht.symm⟩)
      obtain ⟨refused, hlength, hcarried⟩ :=
        ih hconns htransports (e.send clock wall packets m).2 hd
      refine ⟨refused, hlength, ?_⟩
      rw [hcarried, carriedOn_send_of_ne clock wall packets hapart, handedTo, if_neg hother,
        List.nil_append]

end Send

end Delivery

/-! ### What letting go leaves alone -/

namespace Hub

theorem map_carried_stopTransport (m : Media) (s : Session) :
    (stopTransport m s).transports.map (·.carried) = m.transports.map (·.carried) := by
  unfold stopTransport
  split
  · exact Media.map_carried_updateTransport (fun t => by rfl) m _
  · rfl

theorem map_carried_letGoAll (keepOutlet : Session → Bool) (gone : List Session) (m : Media) :
    (gone.foldl (letGo keepOutlet) m).transports.map (·.carried) =
      m.transports.map (·.carried) := by
  induction gone generalizing m with
  | nil => rfl
  | cons s rest ih =>
    rw [List.foldl_cons, ih]
    unfold letGo
    split
    · exact map_carried_stopTransport m s
    · exact map_carried_stopTransport m s

/-- A transport that is stopped keeps what it has carried. -/
theorem carriedOn_conclude (h : Hub) (deliveries : List Delivery) :
    (h.conclude deliveries).2.media.carriedOn = h.media.carriedOn :=
  Media.carriedOn_congr (map_carried_letGoAll _ _ h.media)

end Hub

end RtspServer
