/-
RtspServer/Proofs/Inbox.lean

The inbox of an interleaved transport is a queue of limited length.  What comes
on one of the two channels of the transport is accepted as long as the transport
has not been stopped and fewer than sixty-four packets are pending; whatever else
comes is dropped for good, and what is pending stays.

The `Ledger` of a transport says so without an inbox: it lists what has been
accepted, counts how much of it has been fetched, and notes whether the transport
has been stopped.  It is kept beside the transport (`Media.Books`); what has been
handed out is what the ledger says has been fetched, the first of what was
accepted, and what is in the inbox is the rest (`Media.books_handleAll`).
-/
import RtspServer.Proofs.Emptying

namespace RtspServer

/-- What can be done with an interleaved transport as far as its inbox goes. -/
inductive Handling where
  | start
  | stop
  /-- A `$` frame is handed to it. -/
  | deliver (frame : Frame)
  /-- The oldest packet of its inbox is taken, if there is one. -/
  | receive
  deriving DecidableEq, Repr

namespace Media

/-- Handle a transport once.  What has been received from it so far is kept beside the media. -/
def handle (id : TransportId) (state : List Arrival × Media) : Handling → List Arrival × Media
  | .start => (state.1, (state.2.start id).toOption.getD state.2)
  | .stop => (state.1, state.2.stop id)
  | .deliver frame => (state.1, (state.2.deliver id frame).2)
  | .receive =>
    match state.2.receive? id with
    | some (arrival, m) => (state.1 ++ [arrival], m)
    | none => state

/-- Handle a transport again and again, when nothing has been received from it yet. -/
def handleAll (m : Media) (id : TransportId) (handlings : List Handling) : List Arrival × Media :=
  handlings.foldl (handle id) ([], m)

end Media

/-! ### The ledger -/

/-- A `$` frame as a packet, if its channel is one of a pair.  If both channels have the same
number, it is a data packet. -/
def ChannelPair.arrival? (c : ChannelPair) (frame : Frame) : Option Arrival :=
  if frame.channel = c.data then
    some ⟨.data, UInt16.ofNat frame.channel.toNat, frame.payload⟩
  else if frame.channel = c.control then
    some ⟨.control, UInt16.ofNat frame.channel.toNat, frame.payload⟩
  else none

theorem ChannelPair.isSome_arrival? (c : ChannelPair) (frame : Frame) :
    (c.arrival? frame).isSome ↔ frame.channel = c.data ∨ frame.channel = c.control := by
  unfold arrival?
  split
  · next hdata => simp [hdata]
  · split
    · next hcontrol => simp [hcontrol]
    · next hdata hcontrol => simp [hdata, hcontrol]

/-- What has become of the packets of a transport. -/
structure Ledger where
  /-- Those that were accepted, the first one first. -/
  accepted : List Arrival := []
  /-- How many of these have been fetched. -/
  fetched : Nat := 0
  stopped : Bool := false
  deriving DecidableEq, Repr

namespace Ledger

/-- How many packets have been accepted and not been fetched. -/
def pending (l : Ledger) : Nat := l.accepted.length - l.fetched

/-- A packet is accepted from a transport that has not been stopped, if fewer than sixty-four are
pending. -/
def offer (l : Ledger) (arrival : Arrival) : Ledger :=
  if l.stopped = false ∧ l.pending < 64 then { l with accepted := l.accepted ++ [arrival] } else l

/-- Note what has been done with a transport on a pair of channels. -/
def note (c : ChannelPair) (l : Ledger) : Handling → Ledger
  | .start => l
  | .stop => { l with stopped := true }
  | .deliver frame =>
    match c.arrival? frame with
    | some arrival => l.offer arrival
    | none => l
  | .receive => if 0 < l.pending then { l with fetched := l.fetched + 1 } else l

/-- The ledger of a transport on a pair of channels that has been handled in some ways. -/
def of (c : ChannelPair) (handlings : List Handling) : Ledger := handlings.foldl (note c) {}

end Ledger

/-! ### Handing in -/

/-- A frame is known if its channel is one of the pair, and then it is put into the inbox of a
transport that has not been stopped. -/
theorem Transport.deliver_eq {t : Transport} {outlet : OutletId} {c : ChannelPair}
    (hc : t.carrier = .interleaved outlet c) (frame : Frame) :
    t.deliver frame = ((c.arrival? frame).isSome,
      match c.arrival? frame with
      | some arrival => if t.stopped then t else t.enqueue arrival
      | none => t) := by
  simp only [Transport.deliver, hc, ChannelPair.arrival?]
  by_cases hdata : frame.channel = c.data
  · simp only [if_pos hdata]
    rfl
  · by_cases hcontrol : frame.channel = c.control
    · simp only [if_neg hdata, if_pos hcontrol]
      rfl
    · simp only [if_neg hdata, if_neg hcontrol]
      rfl

namespace Media

/-- An interleaved transport and its ledger: what has been received from it is what has been
fetched, and what is in its inbox is what has been accepted beyond that, sixty-four packets at
most. -/
structure Books (id : TransportId) (outlet : OutletId) (c : ChannelPair)
    (state : List Arrival × Media) (l : Ledger) (t : Transport) : Prop where
  transport : state.2.transports[id]? = some t
  carrier : t.carrier = .interleaved outlet c
  stopped : t.stopped = l.stopped
  received : state.1 = l.accepted.take l.fetched
  inbox : t.inbox = l.accepted.drop l.fetched
  fetched : l.fetched ≤ l.accepted.length
  pending : l.pending ≤ 64

variable {id : TransportId} {outlet : OutletId} {c : ChannelPair} {state : List Arrival × Media}
  {l : Ledger} {t : Transport}

theorem getElem?_updateTransport_self {m : Media} (ht : m.transports[id]? = some t)
    (f : Transport → Transport) : (m.updateTransport id f).transports[id]? = some (f t) := by
  rw [getElem?_updateTransport, ht, Option.map_some, if_pos rfl]

namespace Books

theorem length_inbox (hb : Books id outlet c state l t) : t.inbox.length = l.pending := by
  rw [hb.inbox, List.length_drop, Ledger.pending]

/-- Whether a frame is known depends on its channel alone. -/
theorem fst_deliver (hb : Books id outlet c state l t) (frame : Frame) :
    (state.2.deliver id frame).1 = true ↔
      frame.channel = c.data ∨ frame.channel = c.control := by
  rw [deliver, hb.transport]
  show (t.deliver frame).1 = true ↔ _
  rw [Transport.deliver_eq hb.carrier, ChannelPair.isSome_arrival?]

/-- What is received next is the first packet that has not been fetched. -/
theorem receive?_eq (hb : Books id outlet c state l t) :
    (state.2.receive? id).map (·.1) = l.accepted[l.fetched]? := by
  rw [← Nat.add_zero l.fetched, ← List.getElem?_drop, ← hb.inbox]
  obtain ⟨carrier, started, stopped, inbox, carried, released⟩ := t
  rw [receive?, hb.transport]
  cases inbox <;> rfl

theorem start (hb : Books id outlet c state l t) :
    ∃ t', Books id outlet c (handle id state .start) l t' := by
  simp only [handle, Media.start, hb.transport]
  split
  · exact ⟨t, hb⟩
  · exact ⟨_, { hb with transport := getElem?_updateTransport_self hb.transport _ }⟩

theorem stop (hb : Books id outlet c state l t) :
    ∃ t', Books id outlet c (handle id state .stop) { l with stopped := true } t' :=
  ⟨_, { hb with transport := getElem?_updateTransport_self hb.transport _, stopped := rfl }⟩

/-- A packet that is handed in is accepted or dropped by the transport and by the ledger alike. -/
theorem offer (hb : Books id outlet c state l t) {m : Media} (arrival : Arrival)
    (hm : m.transports[id]? = some (if t.stopped then t else t.enqueue arrival)) :
    ∃ t', Books id outlet c (state.1, m) (l.offer arrival) t' := by
  by_cases haccept : l.stopped = false ∧ l.pending < 64
  · have hlength : t.inbox.length < Transport.inboxCapacity := hb.length_inbox ▸ haccept.2
    rw [hb.stopped, haccept.1, if_neg Bool.false_ne_true, Transport.enqueue, if_pos hlength] at hm
    rw [Ledger.offer, if_pos haccept]
    refine ⟨_, hm, hb.carrier, hb.stopped, ?_, ?_, ?_, ?_⟩
    · rw [hb.received, List.take_append_of_le_length hb.fetched]
    · rw [List.drop_append_of_le_length hb.fetched, ← hb.inbox]
    · simp only [List.length_append, List.length_singleton]
      exact Nat.le_succ_of_le hb.fetched
    · have := haccept.2
      simp only [Ledger.pending, List.length_append, List.length_singleton] at this ⊢
      omega
  · rw [Ledger.offer, if_neg haccept]
    refine ⟨t, { hb with transport := hm.trans (congrArg some ?_) }⟩
    -- it has been stopped, or its inbox is full
    rcases Bool.eq_false_or_eq_true t.stopped with hstopped | hstopped
    · rw [if_pos hstopped]
    · have hfull : ¬t.inbox.length < Transport.inboxCapacity := fun hlt =>
        haccept ⟨hb.stopped ▸ hstopped, hb.length_inbox ▸ hlt⟩
      rw [hstopped, if_neg Bool.false_ne_true, Transport.enqueue, if_neg hfull]

theorem deliver (hb : Books id outlet c state l t) (frame : Frame) :
    ∃ t', Books id outlet c (handle id state (.deliver frame)) (l.note c (.deliver frame)) t' := by
  have hafter : (state.2.deliver id frame).2 =
      state.2.updateTransport id fun t => (t.deliver frame).2 := by
    rw [Media.deliver, hb.transport]
  have ht := getElem?_updateTransport_self hb.transport fun t => (t.deliver frame).2
  rw [← hafter, Transport.deliver_eq hb.carrier] at ht
  simp only [handle, Ledger.note]
  split
  · next arrival harrival =>
    rw [harrival] at ht
    exact hb.offer arrival ht
  · next harrival =>
    rw [harrival] at ht
    exact ⟨t, { hb with transport := ht }⟩

theorem receive (hb : Books id outlet c state l t) :
    ∃ t', Books id outlet c (handle id state .receive) (l.note c .receive) t' := by
  have hlength := hb.length_inbox
  have hinbox := hb.inbox
  have htransport := hb.transport
  obtain ⟨carrier, started, stopped, inbox, carried, released⟩ := t
  simp only [handle, receive?, htransport, Ledger.note]
  cases inbox with
  | nil =>
    have hnone : ¬0 < l.pending := hlength ▸ Nat.lt_irrefl 0
    rw [if_neg hnone]
    exact ⟨_, hb⟩
  | cons arrival rest =>
    have hsome : 0 < l.pending := hlength ▸ Nat.succ_pos _
    have hlt : l.fetched < l.accepted.length := Nat.lt_of_sub_pos hsome
    -- the packet is the first one that has not been fetched
    rw [List.drop_eq_getElem_cons hlt] at hinbox
    obtain ⟨rfl, rfl⟩ := List.cons.inj hinbox
    rw [if_pos hsome]
    refine ⟨_, getElem?_updateTransport_self htransport _, hb.carrier, hb.stopped, ?_, rfl, hlt, ?_⟩
    · rw [List.take_succ_eq_append_getElem hlt, ← hb.received]
    · exact Nat.le_trans (Nat.sub_le_sub_left (Nat.le_succ _) _) hb.pending

/-- **Whatever is done with a transport**, its ledger stays right. -/
theorem handle (hb : Books id outlet c state l t) (handling : Handling) :
    ∃ t', Books id outlet c (handle id state handling) (l.note c handling) t' := by
  cases handling with
  | start => exact hb.start
  | stop => exact hb.stop
  | deliver frame => exact hb.deliver frame
  | receive => exact hb.receive

theorem foldl_handle (hb : Books id outlet c state l t) (handlings : List Handling) :
    ∃ t', Books id outlet c (handlings.foldl (Media.handle id) state)
      (handlings.foldl (Ledger.note c) l) t' := by
  induction handlings generalizing state l t with
  | nil => exact ⟨t, hb⟩
  | cons handling rest ih =>
    obtain ⟨t', hb'⟩ := hb.handle handling
    exact ih hb'

end Books

/-- **A new interleaved transport and its ledger**, however it is handled. -/
theorem books_handleAll (m : Media) (outlet : OutletId) (c : ChannelPair)
    (handlings : List Handling) :
    let opened := m.openInterleaved outlet c
    ∃ t, Books opened.1 outlet c (opened.2.handleAll opened.1 handlings)
      (Ledger.of c handlings) t := by
  intro opened
  have hnew : Books opened.1 outlet c ([], opened.2) {} { carrier := .interleaved outlet c } :=
    ⟨List.getElem?_concat_length, rfl, rfl, rfl, rfl, Nat.le_refl 0, Nat.zero_le 64⟩
  exact hnew.foldl_handle handlings

/-! ### Emptying by receiving -/

theorem clearInbox_of_inbox_eq_nil {m : Media} (hm : m.inbox id = []) : m.clearInbox id = m := by
  refine eq_of_transports (fun j => ?_) rfl
  rw [getElem?_clearInbox]
  rcases ht : m.transports[j]? with - | t
  · rfl
  · by_cases hid : id = j
    · rw [Media.inbox, hid, ht] at hm
      rw [Option.map_some, if_pos hid, Transport.emptied, ← hm]
    · rw [Option.map_some, if_neg hid]

theorem foldl_handle_receive (received : List Arrival) (m : Media) :
    (List.replicate (m.inbox id).length Handling.receive).foldl (handle id) (received, m) =
      (received ++ m.inbox id, m.clearInbox id) := by
  induction hinbox : m.inbox id generalizing received m with
  | nil => exact Prod.ext (List.append_nil received).symm (clearInbox_of_inbox_eq_nil hinbox).symm
  | cons arrival rest ih =>
    obtain ⟨t, ht, hti⟩ : ∃ t, m.transports[id]? = some t ∧ t.inbox = arrival :: rest := by
      rw [Media.inbox] at hinbox
      rcases ht : m.transports[id]? with - | t
      · simp [ht] at hinbox
      · exact ⟨t, rfl, by simpa [ht] using hinbox⟩
    let m' := m.updateTransport id fun t => { t with inbox := rest }
    have hstep : handle id (received, m) .receive = (received ++ [arrival], m') := by
      obtain ⟨carrier, started, stopped, inbox, carried, released⟩ := t
      obtain rfl : inbox = arrival :: rest := hti
      simp only [handle, receive?, ht]
      rfl
    have hrest : m'.inbox id = rest := by
      rw [Media.inbox, getElem?_updateTransport_self ht]
    rw [List.length_cons, List.replicate_succ, List.foldl_cons, hstep, ih _ m' hrest,
      List.append_assoc, m.clearInbox_updateTransport_self id fun _ => by rfl]
    rfl

/-- **Receiving until nothing is left** gives what was in the inbox, and empties it. -/
theorem handleAll_receive (m : Media) (id : TransportId) :
    m.handleAll id (List.replicate (m.inbox id).length .receive) =
      (m.inbox id, m.clearInbox id) :=
  foldl_handle_receive [] m

end Media

end RtspServer
