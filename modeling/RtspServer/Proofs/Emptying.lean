/-
RtspServer/Proofs/Emptying.lean

What is done to media with the inbox of a transport emptied.  Nothing but the
inboxes themselves depends on what is in them, so every operation does to the
media with an emptied inbox what it does to the media: emptying the inbox before
or after makes no difference.  A packet that comes in is lost when the inbox is
emptied after it.
-/
import RtspServer.Proofs.Standing

namespace RtspServer

/-- A transport with nothing in its inbox. -/
def Transport.emptied (t : Transport) : Transport := { t with inbox := [] }

namespace Media

/-- Media are the same if they have the same transports, one by one, and differ in nothing else. -/
theorem eq_of_transports {m m' : Media}
    (htransports : ∀ j : TransportId, m.transports[j]? = m'.transports[j]?)
    (hrest : { m with transports := m'.transports } = m') : m = m' := by
  rw [← hrest, ← List.ext_getElem? htransports]

section ClearInbox

variable (m : Media) (id : TransportId)

theorem getElem?_clearInbox (i : TransportId) :
    (m.clearInbox id).transports[i]? = m.transports[i]?.map fun t =>
      if id = i then t.emptied else t :=
  m.getElem?_updateTransport id i _

/-- A change of a transport that does not look at its inbox. -/
theorem updateTransport_clearInbox {f : Transport → Transport}
    (hf : ∀ t : Transport, f t.emptied = (f t).emptied) (i : TransportId) :
    (m.clearInbox id).updateTransport i f = (m.updateTransport i f).clearInbox id := by
  refine eq_of_transports (fun j => ?_) rfl
  simp only [getElem?_updateTransport, getElem?_clearInbox, Option.map_map]
  congr 1
  funext t
  by_cases hi : i = j <;> by_cases hid : id = j <;> simp [hi, hid, hf]

/-- Whatever happens to the inbox alone is lost when it is emptied. -/
theorem clearInbox_updateTransport_self {f : Transport → Transport}
    (hf : ∀ t, (f t).emptied = t.emptied) :
    (m.updateTransport id f).clearInbox id = m.clearInbox id := by
  refine eq_of_transports (fun j => ?_) rfl
  simp only [getElem?_updateTransport, getElem?_clearInbox, Option.map_map]
  congr 1
  funext t
  by_cases hid : id = j <;> simp [hid, hf]

/-- A change of a transport that does not look at its inbox but may change it. -/
theorem clearInbox_updateTransport {f : Transport → Transport}
    (hf : ∀ t : Transport, (f t.emptied).emptied = (f t).emptied) (i : TransportId) :
    ((m.clearInbox id).updateTransport i f).clearInbox id =
      (m.updateTransport i f).clearInbox id := by
  refine eq_of_transports (fun j => ?_) rfl
  simp only [getElem?_updateTransport, getElem?_clearInbox, Option.map_map]
  congr 1
  funext t
  by_cases hi : i = j <;> by_cases hid : id = j <;> simp [hi, hid, hf]
  rfl

theorem clearInbox_clearInbox : (m.clearInbox id).clearInbox id = m.clearInbox id :=
  m.clearInbox_updateTransport_self id fun _ => by rfl

theorem kind?_clearInbox : (m.clearInbox id).kind? = m.kind? := by
  funext i
  rw [kind?, getElem?_clearInbox, Option.map_map, kind?]
  congr 1
  funext t
  rw [Function.comp_apply]
  split <;> rfl

theorem inbox_clearInbox (i : TransportId) :
    (m.clearInbox id).inbox i = if id = i then [] else m.inbox i := by
  rw [inbox, getElem?_clearInbox, inbox]
  rcases m.transports[i]? with - | t
  · exact (ite_self _).symm
  · by_cases hid : id = i
    · simp only [if_pos hid, Option.map_some, Transport.emptied]
    · simp only [if_neg hid, Option.map_some]

theorem stop_clearInbox (i : TransportId) :
    (m.clearInbox id).stop i = (m.stop i).clearInbox id :=
  m.updateTransport_clearInbox id (fun _ => by rfl) i

theorem start_clearInbox (i : TransportId) :
    (m.clearInbox id).start i = (m.start i).map (·.clearInbox id) := by
  rw [start, getElem?_clearInbox, start]
  rcases m.transports[i]? with - | t
  · rfl
  · have hstarted : (if id = i then t.emptied else t).started = t.started := by
      split <;> rfl
    simp only [Option.map_some, hstarted]
    split
    · rfl
    · exact congrArg Except.ok (m.updateTransport_clearInbox id (fun _ => by rfl) i)

theorem writeOutlet_clearInbox (outlet : OutletId) (message : Bytes) :
    (m.clearInbox id).writeOutlet outlet message =
      (m.writeOutlet outlet message).map (·.clearInbox id) := by
  have houtlets : (m.clearInbox id).outlets = m.outlets := rfl
  rw [writeOutlet, houtlets, writeOutlet]
  rcases m.outlets[outlet]? with - | o
  · rfl
  · rcases hw : o.write message with fault | o' <;> simp only [hw] <;> rfl

theorem noteCarried_clearInbox (i : TransportId) (lane : Lane) (packet : Bytes) :
    (m.clearInbox id).noteCarried i lane packet = (m.noteCarried i lane packet).clearInbox id :=
  m.updateTransport_clearInbox id (fun _ => by rfl) i

/-- Sending has nothing to do with what comes in. -/
theorem send_clearInbox (i : TransportId) (lane : Lane) (packet : Bytes) :
    (m.clearInbox id).send i lane packet = (m.send i lane packet).map (·.clearInbox id) := by
  rw [send, getElem?_clearInbox, send]
  rcases m.transports[i]? with - | t
  · rfl
  have hstopped : (if id = i then t.emptied else t).stopped = t.stopped := by
    split <;> rfl
  have hcarrier : (if id = i then t.emptied else t).carrier = t.carrier := by
    split <;> rfl
  simp only [Option.map_some, hstopped, hcarrier]
  split
  · rfl
  -- one case for each carrier
  split
  · next outlet channels _ =>
    rcases Frame.write ⟨channels.lane lane, packet⟩ with fault | frame
    · rfl
    · have hwritten :
          ((m.clearInbox id).writeOutlet outlet frame).map (·.noteCarried i lane packet) =
          ((m.writeOutlet outlet frame).map (·.noteCarried i lane packet)).map
            (·.clearInbox id) := by
        rw [writeOutlet_clearInbox]
        rcases m.writeOutlet outlet frame with fault | m'
        · rfl
        · exact congrArg Except.ok (m'.noteCarried_clearInbox id i lane packet)
      exact hwritten
  · next client clientPorts _ =>
    have hfault : (m.clearInbox id).datagramFault? = m.datagramFault? := rfl
    rw [hfault]
    rcases m.datagramFault? client (clientPorts.lane lane) packet.length with - | detail
    · exact congrArg Except.ok (m.noteCarried_clearInbox id i lane packet)
    · rfl
  · next budget refusesControl _ =>
    rcases lane with - | -
    · by_cases hspent : budget = some 0
      · simp only [if_pos hspent]
        rfl
      · simp only [if_neg hspent]
        refine congrArg Except.ok ?_
        rw [updateTransport_clearInbox _ _ fun _ => by rfl, noteCarried_clearInbox]
    · by_cases hrefuses : refusesControl = true
      · simp only [if_pos hrefuses]
        rfl
      · simp only [if_neg hrefuses]
        exact congrArg Except.ok (m.noteCarried_clearInbox id i .control packet)

/-- A transport is added with an empty inbox. -/
theorem addTransport_clearInbox {t : Transport} (ht : t.emptied = t) :
    (m.clearInbox id).addTransport t =
      ((m.addTransport t).1, (m.addTransport t).2.clearInbox id) := by
  have hlength : (m.clearInbox id).transports.length = m.transports.length :=
    List.length_modify ..
  refine Prod.ext hlength (eq_of_transports (fun j => ?_) rfl)
  rw [getElem?_clearInbox]
  show ((m.clearInbox id).transports ++ [t])[j]? = (m.transports ++ [t])[j]?.map _
  rw [List.getElem?_append, hlength, List.getElem?_append, getElem?_clearInbox]
  split
  · rfl
  · -- beyond the old ones there is only the new one
    rcases j - m.transports.length with - | k
    · simp [ht]
    · rfl

theorem openInterleaved_clearInbox (outlet : OutletId) (channels : ChannelPair) :
    (m.clearInbox id).openInterleaved outlet channels =
      ((m.openInterleaved outlet channels).1,
        (m.openInterleaved outlet channels).2.clearInbox id) :=
  m.addTransport_clearInbox id rfl

theorem openDatagrams_clearInbox (first limit : UInt16) (client : IpAddress)
    (clientPorts : PortPair) :
    (m.clearInbox id).openDatagrams first limit client clientPorts =
      (m.openDatagrams first limit client clientPorts).map fun x =>
        (x.1, x.2.1, x.2.2.clearInbox id) := by
  have hports : (m.clearInbox id).ports = m.ports := rfl
  rw [openDatagrams, hports, openDatagrams]
  rcases m.ports.reserve first limit with fault | ⟨pair, ports⟩
  · rfl
  · exact congrArg (fun x => Except.ok (pair, x))
      (({ m with ports } : Media).addTransport_clearInbox id
        (t := { carrier := .datagrams pair client clientPorts }) rfl)

theorem reclaim_clearInbox (i : TransportId) :
    (m.clearInbox id).reclaim i = (m.reclaim i).clearInbox id := by
  rw [reclaim, getElem?_clearInbox, reclaim]
  rcases m.transports[i]? with - | ⟨carrier, started, stopped, inbox, carried, released⟩
  · rfl
  have hrest : (if id = i then
        Transport.emptied ⟨carrier, started, stopped, inbox, carried, released⟩
      else ⟨carrier, started, stopped, inbox, carried, released⟩) =
      ⟨carrier, started, stopped, if id = i then [] else inbox, carried, released⟩ := by
    split <;> rfl
  rw [Option.map_some, hrest]
  rcases carrier with _ | ⟨pair, client, clientPorts⟩ | _
  · rfl
  · cases stopped <;> cases released <;> try rfl
    exact ({ m with ports := m.ports.releasePair pair } : Media).updateTransport_clearInbox id
      (fun _ => by rfl) i
  · rfl

theorem reclaimAll_clearInbox : (m.clearInbox id).reclaimAll = m.reclaimAll.clearInbox id := by
  have hlength : (m.clearInbox id).transports.length = m.transports.length :=
    List.length_modify ..
  rw [reclaimAll, hlength, reclaimAll]
  exact List.foldl_hom (fun m : Media => m.clearInbox id) fun m i => m.reclaim_clearInbox id i

/-! ### Packets that come in -/

theorem emptied_enqueue (t : Transport) (arrival : Arrival) :
    (t.enqueue arrival).emptied = t.emptied := by
  unfold Transport.enqueue
  split <;> rfl

theorem emptied_deliver (t : Transport) (frame : Frame) :
    (t.deliver frame).2.emptied = t.emptied := by
  unfold Transport.deliver
  (repeat' split) <;> first | rfl | exact emptied_enqueue ..

theorem emptied_receive (t : Transport) (arrival : Arrival) :
    (t.receive arrival).emptied = t.emptied := by
  unfold Transport.receive Transport.hear
  (repeat' split) <;> first | rfl | exact emptied_enqueue ..

/-- A frame that is handed to the transport is lost when the inbox is emptied. -/
theorem clearInbox_deliver_self (frame : Frame) :
    (m.deliver id frame).2.clearInbox id = m.clearInbox id := by
  unfold deliver
  split
  · exact m.clearInbox_updateTransport_self id fun t => emptied_deliver t frame
  · rfl

theorem clearInbox_deliver (i : TransportId) (frame : Frame) :
    ((m.clearInbox id).deliver i frame).2.clearInbox id =
      (m.deliver i frame).2.clearInbox id := by
  rw [deliver, getElem?_clearInbox, deliver]
  rcases m.transports[i]? with - | t
  · exact m.clearInbox_clearInbox id
  · refine m.clearInbox_updateTransport id (fun t => ?_) i
    rw [emptied_deliver, emptied_deliver]
    rfl

theorem clearInbox_undergo (incident : Incident) :
    ((m.clearInbox id).undergo incident).clearInbox id = (m.undergo incident).clearInbox id := by
  -- whatever does not touch an inbox happens to the emptied transport as well
  have hsame : (m.clearInbox id).undergo incident = (m.undergo incident).clearInbox id →
      ((m.clearInbox id).undergo incident).clearInbox id = (m.undergo incident).clearInbox id :=
    fun h => (congrArg (fun m : Media => m.clearInbox id) h).trans (clearInbox_clearInbox _ id)
  cases incident with
  | made carrier =>
    exact hsame (congrArg Prod.snd (m.addTransport_clearInbox id (t := { carrier }) rfl))
  | arrived i arrival =>
    refine m.clearInbox_updateTransport id (fun t => ?_) i
    rw [emptied_receive, emptied_receive]
    rfl
  | limited i budget refusesControl =>
    refine hsame (m.updateTransport_clearInbox id (fun t => ?_) i)
    unfold Transport.limit Transport.emptied
    split <;> simp_all
  | throttled i budget => exact hsame rfl
  | written i message =>
    refine hsame ?_
    simp only [undergo, m.writeOutlet_clearInbox id]
    rcases m.writeOutlet i message with fault | m' <;> rfl
  | linked fault => exact hsame rfl

end ClearInbox

end Media

end RtspServer
