/-
RtspServer/Proofs/Standing.lean

Where a transport stands: of which kind it is, whether it has been started and
whether it has been stopped.  Everything else about it, what it has carried,
what waits in its inbox and what its carrier still takes, comes and goes.

Only `Media.start` and `Media.stop` change where a transport stands.  All other
operations keep it (`Media.Keeps`), and the transports they add are fresh.  Of
these only `Media.addOutlet` changes which outlets there are (`Media.Stays`).
-/
import RtspServer.Transport.Incident
import Mathlib.Tactic.Common

namespace RtspServer

/-- The kind of a transport and how far it has come. -/
structure Standing where
  kind : TransportKind
  started : Bool
  stopped : Bool
  deriving DecidableEq, Repr

namespace Standing

/-- Neither started nor stopped. -/
def IsFresh (s : Standing) : Prop := s.started = false ∧ s.stopped = false

/-- Started and not stopped. -/
def IsRunning (s : Standing) : Prop := s.started = true ∧ s.stopped = false

/-- Started, and stopped after that. -/
def IsDone (s : Standing) : Prop := s.started = true ∧ s.stopped = true

end Standing

/-- Where a transport stands. -/
def Transport.standing (t : Transport) : Standing := ⟨t.kind, t.started, t.stopped⟩

namespace Media

/-- Where the transport with a number stands. -/
def standing? (m : Media) (id : TransportId) : Option Standing :=
  m.transports[id]?.map Transport.standing

theorem standing?_of_getElem? {m : Media} {id : TransportId} {t : Transport}
    (ht : m.transports[id]? = some t) : m.standing? id = some t.standing := by
  rw [standing?, ht]
  rfl

theorem getElem?_of_standing? {m : Media} {id : TransportId} {s : Standing}
    (hs : m.standing? id = some s) : ∃ t, m.transports[id]? = some t ∧ t.standing = s :=
  Option.map_eq_some_iff.mp hs

/-- Every transport of `m` stands in `m'` where it stood, and the others in `m'` are fresh. -/
def Keeps (m m' : Media) : Prop :=
  ∀ id, m'.standing? id = m.standing? id ∨
    (m.standing? id = none ∧ ∃ s, m'.standing? id = some s ∧ s.IsFresh)

theorem Keeps.of_eq {m m' : Media} (h : m'.standing? = m.standing?) : m.Keeps m' :=
  fun id => Or.inl (congrFun h id)

theorem Keeps.refl (m : Media) : m.Keeps m := Keeps.of_eq rfl

theorem Keeps.trans {a b c : Media} (hab : a.Keeps b) (hbc : b.Keeps c) : a.Keeps c := by
  intro id
  rcases hbc id with hc | ⟨hb, hc⟩
  · rw [hc]
    exact hab id
  · -- what is fresh in `c` and not there in `b` was not there in `a` either
    rcases hab id with hb' | ⟨-, s, hs, -⟩
    · exact Or.inr ⟨hb' ▸ hb, hc⟩
    · rw [hs] at hb
      cases hb

/-- A transport that is there stays where it stands. -/
theorem Keeps.standing {m m' : Media} (h : m.Keeps m') {id : TransportId} {s : Standing}
    (hs : m.standing? id = some s) : m'.standing? id = some s := by
  rcases h id with h' | ⟨hnone, -⟩
  · rw [h', hs]
  · rw [hs] at hnone
    cases hnone

/-- `m'` has the outlets of `m`, by their numbers, and every transport where it stood. -/
structure Stays (m m' : Media) : Prop where
  keeps : m.Keeps m'
  outlets : m'.outlets.length = m.outlets.length

theorem Stays.refl (m : Media) : m.Stays m := ⟨.refl m, rfl⟩

theorem Stays.trans {a b c : Media} (hab : a.Stays b) (hbc : b.Stays c) : a.Stays c :=
  ⟨hab.keeps.trans hbc.keeps, hbc.outlets.trans hab.outlets⟩

/-! ### Operations that keep every transport where it stands -/

/-- Nothing about outlets and ports tells where a transport stands. -/
theorem standing?_of_transports {m m' : Media} (h : m'.transports = m.transports) :
    m'.standing? = m.standing? := by
  funext id
  simp [standing?, h]

theorem standing?_shut (m : Media) (id : OutletId) : (m.shut id).standing? = m.standing? := rfl

theorem getElem?_updateTransport (m : Media) (id other : TransportId)
    (f : Transport → Transport) :
    (m.updateTransport id f).transports[other]? = m.transports[other]?.map fun t =>
      if id = other then f t else t :=
  List.getElem?_modify ..

/-- A change of a transport that keeps where it stands. -/
theorem stays_updateTransport {f : Transport → Transport}
    (hf : ∀ t, (f t).standing = t.standing) (m : Media) (id : TransportId) :
    m.Stays (m.updateTransport id f) := by
  refine ⟨.of_eq ?_, rfl⟩
  funext other
  rw [standing?, getElem?_updateTransport, standing?]
  rcases m.transports[other]? with - | t
  · rfl
  · by_cases h : id = other <;> simp [h, hf]

theorem stays_updateOutlet (m : Media) (id : OutletId) (f : Outlet → Outlet) :
    m.Stays (m.updateOutlet id f) :=
  ⟨.of_eq rfl, List.length_modify ..⟩

/-- Giving a port back, or taking one, is nothing to transports and outlets. -/
theorem stays_ports (m : Media) (ports : PortPool) : m.Stays { m with ports } :=
  ⟨.of_eq (standing?_of_transports rfl), rfl⟩

theorem stays_noteCarried (m : Media) (id : TransportId) (lane : Lane) (packet : Bytes) :
    m.Stays (m.noteCarried id lane packet) :=
  stays_updateTransport (fun t => by rfl) m id

theorem stays_clearInbox (m : Media) (id : TransportId) : m.Stays (m.clearInbox id) :=
  stays_updateTransport (fun t => by rfl) m id

/-- Writing a message changes one outlet. -/
theorem exists_of_writeOutlet {m m' : Media} {id : OutletId} {message : Bytes}
    (h : m.writeOutlet id message = .ok m') : ∃ o, m' = m.updateOutlet id fun _ => o := by
  unfold writeOutlet at h
  rcases e : m.outlets[id]? with - | o
  · simp [e] at h
  · rcases w : o.write message with _ | o'
    · simp [e, w, bind, Except.bind] at h
    · simp only [e, w, bind, Except.bind, pure, Except.pure, Except.ok.injEq] at h
      exact ⟨o', h.symm⟩

theorem transports_writeOutlet {m m' : Media} {id : OutletId} {message : Bytes}
    (h : m.writeOutlet id message = .ok m') : m'.transports = m.transports := by
  obtain ⟨o, rfl⟩ := exists_of_writeOutlet h
  rfl

theorem stays_writeOutlet {m m' : Media} {id : OutletId} {message : Bytes}
    (h : m.writeOutlet id message = .ok m') : m.Stays m' := by
  obtain ⟨o, rfl⟩ := exists_of_writeOutlet h
  exact stays_updateOutlet m id _

/-- A change of a transport that keeps what it has carried. -/
theorem map_carried_updateTransport {f : Transport → Transport}
    (hf : ∀ t, (f t).carried = t.carried) (m : Media) (id : TransportId) :
    (m.updateTransport id f).transports.map (·.carried) = m.transports.map (·.carried) := by
  apply List.ext_getElem?
  intro other
  rw [List.getElem?_map, List.getElem?_map, getElem?_updateTransport]
  rcases m.transports[other]? with - | t
  · rfl
  · by_cases h : id = other <;> simp [h, hf]

theorem kind_spendBudget (t : Transport) :
    Transport.kind { t with carrier := spendBudget t.carrier } = t.kind := by
  obtain ⟨carrier, _, _, _, _, _⟩ := t
  unfold spendBudget Transport.kind
  rcases carrier with _ | _ | ⟨kind, _ | _ | n, refuses⟩ <;> rfl

/-- What sending a packet does: outlets and carriers take what they take, and then the packet is
noted. -/
theorem exists_of_send {m m' : Media} {id : TransportId} {lane : Lane} {packet : Bytes}
    (h : m.send id lane packet = .ok m') :
    ∃ m₁, m' = m₁.noteCarried id lane packet ∧ m.Stays m₁ ∧ id < m.transports.length ∧
      m₁.transports.map (·.carried) = m.transports.map (·.carried) := by
  unfold send at h
  split at h
  · cases h
  next t ht =>
  have hid : id < m.transports.length := (List.getElem?_eq_some_iff.mp ht).1
  split at h
  · cases h
  -- one case for each carrier
  split at h
  · next outlet channels hc =>
    rcases e : Frame.write ⟨channels.lane lane, packet⟩ with _ | frame
    · simp [e, bind, Except.bind] at h
    rcases w : m.writeOutlet outlet frame with _ | m₁
    · simp [e, w, bind, Except.bind] at h
    · simp only [e, w, bind, Except.bind, pure, Except.pure, Except.ok.injEq] at h
      exact ⟨m₁, h.symm, stays_writeOutlet w, hid, by rw [transports_writeOutlet w]⟩
  · split at h
    · cases h
    · exact ⟨m, (Except.ok.inj h).symm, .refl m, hid, rfl⟩
  · split at h
    · split at h
      · cases h
      · exact ⟨m, (Except.ok.inj h).symm, .refl m, hid, rfl⟩
    · split at h
      · cases h
      · -- the budget of a memory carrier is spent first
        refine ⟨_, (Except.ok.inj h).symm, ?_, hid, ?_⟩
        · refine stays_updateTransport (fun t => ?_) m id
          simp only [Transport.standing, kind_spendBudget]
        · exact map_carried_updateTransport (fun t => by rfl) m id

/-- Sending a packet stops nobody. -/
theorem stays_send {m m' : Media} {id : TransportId} {lane : Lane} {packet : Bytes}
    (h : m.send id lane packet = .ok m') : m.Stays m' := by
  obtain ⟨m₁, rfl, hstays, -, -⟩ := exists_of_send h
  exact hstays.trans (stays_noteCarried ..)

theorem standing_enqueue (t : Transport) (arrival : Arrival) :
    (t.enqueue arrival).standing = t.standing := by
  unfold Transport.enqueue
  split <;> rfl

theorem standing_deliver (t : Transport) (frame : Frame) :
    (t.deliver frame).2.standing = t.standing := by
  unfold Transport.deliver
  (repeat' split) <;> simp [standing_enqueue]

theorem standing_receive (t : Transport) (arrival : Arrival) :
    (t.receive arrival).standing = t.standing := by
  unfold Transport.receive Transport.hear
  (repeat' split) <;> first | rfl | exact standing_enqueue ..

theorem standing_limit (t : Transport) (budget : Option Nat) (refusesControl : Bool) :
    (t.limit budget refusesControl).standing = t.standing := by
  unfold Transport.limit
  split
  · next h => simp [Transport.standing, Transport.kind, h]
  · rfl

theorem stays_deliver (m : Media) (id : TransportId) (frame : Frame) :
    m.Stays (m.deliver id frame).2 := by
  unfold deliver
  split
  · exact stays_updateTransport (fun t => standing_deliver t frame) m id
  · exact .refl m

theorem stays_reclaim (m : Media) (id : TransportId) : m.Stays (m.reclaim id) := by
  unfold reclaim
  split
  · next pair _ _ _ _ _ _ =>
    refine (m.stays_ports (m.ports.releasePair pair)).trans ?_
    exact stays_updateTransport (f := fun t => { t with released := true }) (fun _ => rfl) _ id
  · exact .refl m

theorem stays_reclaimAll (m : Media) : m.Stays m.reclaimAll := by
  unfold reclaimAll
  -- the numbers are fixed beforehand, so the list is generalised before the induction
  generalize List.range m.transports.length = ids
  induction ids generalizing m with
  | nil => exact .refl m
  | cons id ids ih => exact (m.stays_reclaim id).trans (ih _)

/-! ### Operations that add a transport -/

theorem standing?_addTransport (m : Media) (t : Transport) (id : TransportId) :
    (m.addTransport t).2.standing? id =
      if id = m.transports.length then some t.standing else m.standing? id := by
  simp only [addTransport, standing?]
  -- a number below the end, at the end, or beyond it
  rcases Nat.lt_trichotomy id m.transports.length with hlt | rfl | hgt
  · rw [List.getElem?_append_left hlt, if_neg (Nat.ne_of_lt hlt)]
  · simp
  · rw [if_neg (Nat.ne_of_gt hgt), List.getElem?_eq_none (by simpa using Nat.succ_le_of_lt hgt),
      List.getElem?_eq_none (Nat.le_of_lt hgt)]

/-- A transport that nobody has touched yet can be added. -/
theorem stays_addTransport (m : Media) {t : Transport} (ht : t.standing.IsFresh) :
    m.Stays (m.addTransport t).2 := by
  refine ⟨fun id => ?_, rfl⟩
  rw [standing?_addTransport]
  split_ifs with h
  · exact Or.inr ⟨by simp [standing?, h], t.standing, rfl, ht⟩
  · exact Or.inl rfl

theorem stays_openInterleaved (m : Media) (outlet : OutletId) (channels : ChannelPair) :
    m.Stays (m.openInterleaved outlet channels).2 :=
  stays_addTransport m ⟨rfl, rfl⟩

theorem stays_openDatagrams {m m' : Media} {first limit : UInt16} {client : IpAddress}
    {clientPorts pair : PortPair} {id : TransportId}
    (h : m.openDatagrams first limit client clientPorts = .ok (pair, id, m')) : m.Stays m' := by
  unfold openDatagrams at h
  rcases e : m.ports.reserve first limit with _ | ⟨pair', ports⟩
  · simp [e, bind, Except.bind] at h
  · simp only [e, bind, Except.bind, pure, Except.pure, Except.ok.injEq, Prod.mk.injEq] at h
    obtain ⟨-, -, rfl⟩ := h
    exact (m.stays_ports ports).trans (stays_addTransport _ ⟨rfl, rfl⟩)

/-- Whatever happens from outside keeps every transport where it stands. -/
theorem stays_undergo (m : Media) (incident : Incident) : m.Stays (m.undergo incident) := by
  cases incident with
  | made carrier => exact stays_addTransport m ⟨rfl, rfl⟩
  | arrived id arrival => exact stays_updateTransport (fun t => standing_receive t arrival) m id
  | limited id budget refusesControl =>
    exact stays_updateTransport (fun t => standing_limit t budget refusesControl) m id
  | throttled id budget => exact stays_updateOutlet m id _
  | written id message =>
    show m.Stays ((m.writeOutlet id message).toOption.getD m)
    rcases e : m.writeOutlet id message with _ | m'
    · exact .refl m
    · exact stays_writeOutlet e
  | linked fault => exact ⟨.of_eq (standing?_of_transports rfl), rfl⟩

/-! ### Starting and stopping -/

theorem standing?_updateTransport (m : Media) (id other : TransportId)
    (f : Transport → Transport) :
    (m.updateTransport id f).standing? other =
      if id = other then m.transports[other]?.map fun t => (f t).standing
      else m.standing? other := by
  rw [standing?, getElem?_updateTransport, standing?]
  split_ifs with h <;> simp [Function.comp_def]

/-- A transport that is stopped stays of its kind. -/
theorem standing?_stop (m : Media) (id other : TransportId) :
    (m.stop id).standing? other =
      if id = other then (m.standing? other).map fun s => { s with stopped := true }
      else m.standing? other := by
  rw [stop, standing?_updateTransport]
  simp only [standing?, Option.map_map]
  rfl

/-- Starting succeeds for a transport that has not been started, and for no other. -/
theorem start_eq_ok_iff {m m' : Media} {id : TransportId} :
    m.start id = .ok m' ↔
      (∃ s, m.standing? id = some s ∧ s.started = false) ∧
        m' = m.updateTransport id fun t => { t with started := true } := by
  unfold start standing?
  rcases e : m.transports[id]? with - | t
  · simp
  · -- the transport is there, so all depends on whether it has been started
    by_cases hs : t.started = true
    · simp [hs, Transport.standing]
    · simp only [hs, Option.map_some]
      constructor
      · intro h
        exact ⟨⟨_, rfl, by simpa [Transport.standing] using hs⟩, (Except.ok.inj h).symm⟩
      · rintro ⟨-, rfl⟩
        rfl

theorem standing?_start {m m' : Media} {id : TransportId} (h : m.start id = .ok m')
    (other : TransportId) :
    m'.standing? other =
      if id = other then (m.standing? other).map fun s => { s with started := true }
      else m.standing? other := by
  obtain ⟨-, rfl⟩ := start_eq_ok_iff.mp h
  rw [standing?_updateTransport]
  simp only [standing?, Option.map_map]
  rfl

end Media

end RtspServer
