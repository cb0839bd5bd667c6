/-
RtspServer/Proofs/Landing.lean

What the arrival of a picture does to the entries of a hub in which other things
have happened since it departed.  Entries may have gone by then, and others may
have another transport than the one that was noted.

The arrival looks at every entry that is left and asks whether its delivery went
to the transport that it has now.  If not, the entry is none of its business.
If so, the counters are put back, or the entry is closed if that very transport
has refused a packet.  This is enough because numbers of connections are not
given out again, and because a transport that an entry has given up is not bound
again.
-/
import RtspServer.Proofs.Isolation
import RtspServer.Proofs.Overlap

namespace RtspServer

/-- A transport that has been stopped refuses everything. -/
theorem Media.send_of_stopped {m : Media} {id : TransportId} {st : Standing}
    (hst : m.standing? id = some st) (hstopped : st.stopped = true) (lane : Lane)
    (packet : Bytes) : m.send id lane packet = .error .stopped := by
  obtain ⟨t, ht, rfl⟩ := Media.getElem?_of_standing? hst
  rw [Media.send, ht]
  exact if_pos hstopped

namespace Hub

/-- A connection that has gone does not come back. -/
theorem Changes.gone {h h' : Hub} (hn : h.Numbered) (hc : Changes Session.Revised h h')
    {conn : ConnId} (hbelow : conn < h.nextConn) (hgone : ∀ t ∈ h.sessions, t.conn ≠ conn) :
    ∀ t ∈ h'.sessions, t.conn ≠ conn := by
  induction hc with
  | refl => exact hgone
  | tail hpre hstep ih =>
    intro t ht
    rcases hstep.mem_sessions .refl (hn.changes hpre) ht with
      ⟨u, hu, hr⟩ | hnew | ⟨u, hu, id, transport, rfl, -⟩
    · exact hr.conn ▸ ih u hu
    · -- a newcomer has a number that was not given out before
      rw [hnew.conn]
      exact Nat.ne_of_gt (Nat.lt_of_lt_of_le hbelow (Changes.nextConn_le hpre))
    · exact ih u hu

theorem entry?_eq_none_iff {h : Hub} {conn : ConnId} :
    h.entry? conn = none ↔ ∀ t ∈ h.sessions, t.conn ≠ conn := by
  unfold entry?
  simp

/-- An entry keeps away from a transport that it has given up. -/
theorem Changes.not_holds {h h' : Hub} (hn : h.Numbered) (hc : Changes Session.Revised h h')
    {id : TransportId} {st : Standing} (hst : h.media.standing? id = some st)
    (hstarted : st.started = true) {s t : Session} (hs : s ∈ h.sessions) (ht : t ∈ h'.sessions)
    (hconn : t.conn = s.conn) (hleft : ¬Holds s id) : ¬Holds t id := by
  intro hid
  obtain ⟨u, hu, hsame, huid⟩ := hc.held hn hst hstarted ht hid
  exact hleft (hn.eq_of_conn hu hs (hsame.trans hconn) ▸ huid)

end Hub

/-! ### Steps of a live hub as changes -/

theorem Leg.stays_advance (clock : UInt32) (wall : Rtcp.NtpTime) (l : Leg) (m : Media) :
    m.Stays (l.advance clock wall m).2 := by
  unfold Leg.advance
  split
  · split
    · exact .refl m
    · exact Hub.stays_sendPacket (l.delivery, m) _
  · exact Hub.stays_sendReport clock wall l.delivery m

namespace Live

variable {s : Live}

theorem changes_step (hs : s.Sound) (mv : Move) :
    Hub.Changes Session.Revised s.hub (s.step mv).hub := by
  cases mv with
  | operation o =>
    by_cases ho : o.isQuiet = true
    · rw [step, if_pos ho]
      exact Hub.changes_perform hs.toNumbered o
    · rw [step, if_neg ho]
  | depart picture order =>
    show Hub.Changes _ _ (s.depart picture order).hub
    unfold depart
    split
    · split <;> exact .refl
    · exact .refl
  | write wall =>
    rcases s.write_cases wall with ⟨hsame, -⟩ | ⟨f, done, l, rest, -, -, -, -, hwrite⟩
    · rw [hsame]
    · rw [hwrite]
      exact .single (.media s.hub (l.stays_advance f.clock wall s.hub.media))
  | arrive =>
    show Hub.Changes _ _ s.arrive.hub
    unfold arrive
    split
    · split
      · exact Hub.changes_conclude s.hub Session.revised_settle _
      · exact .refl
    · exact .refl

theorem changes_run (hs : s.Sound) (moves : List Move) :
    Hub.Changes Session.Revised s.hub (s.run moves).hub := by
  induction moves generalizing s with
  | nil => exact .refl
  | cons mv rest ih => exact (changes_step hs mv).trans (ih (hs.step mv))

/-! ### A picture on its way -/

/-- The transport that is noted for a connection when a picture departs: the one of its entry, if
the entry plays. -/
def Notes (s : Live) (conn : ConnId) (id : TransportId) : Prop :=
  ∃ t ∈ s.hub.sessions, t.conn = conn ∧ t.isPlaying = true ∧ t.stream.transport = some id

/-- Is a transport used for a connection by the picture on its way? -/
def Uses (s : Live) (conn : ConnId) (id : TransportId) : Prop :=
  ∃ f ∈ s.flight, ∃ l ∈ f.legs, l.delivery.conn = conn ∧ l.delivery.transport = id

/-- Has the delivery to a connection on a transport failed? -/
def Fails (s : Live) (conn : ConnId) (id : TransportId) : Prop :=
  ∃ f ∈ s.flight, ∃ l ∈ f.legs, l.delivery.conn = conn ∧ l.delivery.transport = id ∧
    l.delivery.failed = true

/-- A step writes a packet to a transport for a connection, and the transport refuses it. -/
def Refuses (s : Live) (conn : ConnId) (id : TransportId) : Move → Prop
  | .write _ => ∃ f ∈ s.flight, ∃ l ∈ Flight.next? f.legs,
      l.delivery.conn = conn ∧ l.delivery.transport = id ∧ l.begun = true ∧
        ∃ packet ∈ l.packets.head?,
          (s.hub.media.send id .data (l.delivery.stamped packet)).isOk = false
  | _ => False

/-- Some packet is refused by a transport for a connection while steps are made. -/
def Refused (conn : ConnId) (id : TransportId) : Live → List Move → Prop
  | _, [] => False
  | s, mv :: rest => s.Refuses conn id mv ∨ Refused conn id (s.step mv) rest

instance (s : Live) (conn : ConnId) (id : TransportId) :
    (mv : Move) → Decidable (s.Refuses conn id mv)
  | .write _ => inferInstanceAs (Decidable (∃ f ∈ s.flight, ∃ l ∈ Flight.next? f.legs, _))
  | .operation _ | .depart .. | .arrive => inferInstanceAs (Decidable False)

instance decidableRefused (conn : ConnId) (id : TransportId) :
    (s : Live) → (moves : List Move) → Decidable (Refused conn id s moves)
  | _, [] => inferInstanceAs (Decidable False)
  | s, mv :: rest =>
    have := decidableRefused conn id (s.step mv) rest
    inferInstanceAs (Decidable (s.Refuses conn id mv ∨ _))

end Live

/-- Can a step be made between the departure of a picture and its arrival? -/
def Move.isMeanwhile : Move → Bool
  | .operation _ | .write _ => true
  | .depart .. | .arrive => false

/-- A delivery fails when a packet is refused, and in no other way. -/
theorem Leg.failed_advance (clock : UInt32) (wall : Rtcp.NtpTime) {l : Leg}
    (hl : l.isDone = false) (m : Media) :
    (l.advance clock wall m).1.delivery.failed = true ↔
      l.delivery.failed = true ∨ (l.begun = true ∧ ∃ packet ∈ l.packets.head?,
        (m.send l.delivery.transport .data (l.delivery.stamped packet)).isOk = false) := by
  obtain ⟨d, begun, packets⟩ := l
  cases begun with
  | false =>
    simp [advance, Delivery.failed_sendReport]
  | true =>
    obtain ⟨hfailed, packet, rest, rfl⟩ :
        d.failed = false ∧ ∃ packet rest, packets = packet :: rest := by
      rw [isDone, Bool.true_and, Bool.or_eq_false_iff] at hl
      exact ⟨hl.1, List.exists_cons_of_ne_nil (by simpa using hl.2)⟩
    rcases hsend : m.send d.transport .data (d.stamped packet) with fault | m'
    · simp [advance, Delivery.sendPacket, hfailed, hsend, Except.isOk, Except.toBool]
    · simp [advance, Delivery.sendPacket, hfailed, hsend, Delivery.count, Except.isOk,
        Except.toBool]

namespace Live

variable {s : Live} {conn : ConnId} {id : TransportId} {mv : Move}

theorem Fails.uses (h : s.Fails conn id) : s.Uses conn id := by
  obtain ⟨f, hf, l, hl, hconn, hid, -⟩ := h
  exact ⟨f, hf, l, hl, hconn, hid⟩

/-- What a step does on the way keeps the transports that are used, and deliveries fail by what is
refused. -/
theorem underway_step (hmv : mv.isMeanwhile = true) :
    ((s.step mv).Uses conn id → s.Uses conn id) ∧
      ((s.step mv).Fails conn id ↔ s.Fails conn id ∨ s.Refuses conn id mv) := by
  cases mv with
  | operation o =>
    have hflight : (s.step (.operation o)).flight = s.flight := by
      rw [step]
      split <;> rfl
    simp only [Uses, Fails, Refuses, hflight, or_false]
    exact ⟨fun h => h, trivial⟩
  | write wall =>
    rcases s.write_cases wall with ⟨hsame, hnext⟩ | ⟨f, done, l, rest, hf, hlegs, hnext, hl, hwrite⟩
    · refine ⟨fun h => hsame ▸ h, hsame.symm ▸ ⟨Or.inl, ?_⟩⟩
      rintro (h | ⟨f, hf, l, hl, -⟩)
      · exact h
      · rw [hnext f hf] at hl
        cases hl
    · have hstep := l.step_advance f.clock wall hl s.hub.media
      have hfailed := l.failed_advance f.clock wall hl s.hub.media
      obtain ⟨hconn, htransport, -⟩ := hstep.delivery
      generalize (l.advance f.clock wall s.hub.media).1 = l' at hwrite hfailed hconn htransport
      -- what goes on for the leg that is written to, and that the other legs stay
      have hmem : ∀ {y : Leg}, y ∈ done ++ l' :: rest ↔ y = l' ∨ y ∈ done ++ rest := by
        intro y
        simp only [List.mem_append, List.mem_cons]
        tauto
      have hmem' : ∀ {y : Leg}, y ∈ f.legs ↔ y = l ∨ y ∈ done ++ rest := by
        intro y
        simp only [hlegs, List.mem_append, List.mem_cons]
        tauto
      have hrefuses : s.Refuses conn id (.write wall) ↔
          l.delivery.conn = conn ∧ l.delivery.transport = id ∧ l.begun = true ∧
            ∃ packet ∈ l.packets.head?,
              (s.hub.media.send id .data (l.delivery.stamped packet)).isOk = false := by
        simp [Refuses, hf, hnext]
      rw [hwrite, hrefuses]
      refine ⟨?_, ?_, ?_⟩
      · rintro ⟨f', hf', y, hy, rfl, rfl⟩
        obtain rfl := Option.some.inj hf'
        rcases hmem.mp hy with rfl | hy
        · exact ⟨f, hf, l, hmem'.mpr (Or.inl rfl), hconn.symm, htransport.symm⟩
        · exact ⟨f, hf, y, hmem'.mpr (Or.inr hy), rfl, rfl⟩
      · rintro ⟨f', hf', y, hy, rfl, rfl, hy'⟩
        obtain rfl := Option.some.inj hf'
        rcases hmem.mp hy with rfl | hy
        · rcases hfailed.mp hy' with h | h
          · exact Or.inl ⟨f, hf, l, hmem'.mpr (Or.inl rfl), hconn.symm, htransport.symm, h⟩
          · exact Or.inr ⟨hconn.symm, htransport.symm, htransport ▸ h⟩
        · exact Or.inl ⟨f, hf, y, hmem'.mpr (Or.inr hy), rfl, rfl, hy'⟩
      · rintro (⟨f', hf', y, hy, rfl, rfl, hy'⟩ | ⟨rfl, rfl, h⟩)
        · obtain rfl := Option.some.inj (hf.symm.trans hf')
          rcases hmem'.mp hy with rfl | hy
          · exact ⟨_, rfl, l', hmem.mpr (Or.inl rfl), hconn, htransport,
              hfailed.mpr (Or.inl hy')⟩
          · exact ⟨_, rfl, y, hmem.mpr (Or.inr hy), rfl, rfl, hy'⟩
        · exact ⟨_, rfl, l', hmem.mpr (Or.inl rfl), hconn, htransport,
            hfailed.mpr (Or.inr h)⟩
  | depart | arrive => cases hmv

theorem underway_run {moves : List Move} (hmoves : ∀ mv ∈ moves, mv.isMeanwhile = true) :
    ((s.run moves).Uses conn id → s.Uses conn id) ∧
      ((s.run moves).Fails conn id ↔ s.Fails conn id ∨ Refused conn id s moves) := by
  induction moves generalizing s with
  | nil => exact ⟨fun h => h, by simp [run, Refused]⟩
  | cons mv rest ih =>
    obtain ⟨huses, hfails⟩ := @underway_step s conn id mv (hmoves mv List.mem_cons_self)
    obtain ⟨ihuses, ihfails⟩ := ih (s := s.step mv) fun x hx => hmoves x (List.mem_cons_of_mem _ hx)
    refine ⟨fun h => huses (ihuses h), ?_⟩
    show ((s.step mv).run rest).Fails conn id ↔ _
    rw [ihfails, hfails, Refused, or_assoc]

/-- A picture departs with the transports that are noted, and nothing has failed yet. -/
theorem underway_depart (hnone : s.flight = none) (picture : Picture) (order : List Delivery) :
    ((s.step (.depart picture order)).Uses conn id → s.Notes conn id) ∧
      ¬(s.step (.depart picture order)).Fails conn id := by
  have hnobody : ∀ f, f ∉ s.flight := fun f hf => nomatch hnone.symm.trans hf
  show ((s.depart picture order).Uses conn id → _) ∧ ¬(s.depart picture order).Fails conn id
  unfold depart
  split
  · next packets _ hcut =>
    split
    · next horder =>
      -- every leg is the whole way of a delivery that was noted
      have hleg : ∀ l ∈ order.map (·.leg packets), ∃ t ∈ s.hub.sessions,
          ∃ d, Delivery.ofSession? t = some d ∧ l = d.leg packets := by
        intro l hl
        obtain ⟨d, hd, rfl⟩ := List.mem_map.mp hl
        obtain ⟨t, ht, hof⟩ := Hub.mem_deliveries.mp (horder.2.subset hd)
        exact ⟨t, ht, d, hof, rfl⟩
      constructor
      · rintro ⟨f, ⟨⟩, l, hl, rfl, rfl⟩
        obtain ⟨t, ht, d, hof, rfl⟩ := hleg l hl
        obtain ⟨hconn, htransport, -⟩ := Delivery.of_ofSession? hof
        exact ⟨t, ht, hconn.symm, (Delivery.start_of_ofSession? hof).1, htransport⟩
      · rintro ⟨f, ⟨⟩, l, hl, -, -, hfailed⟩
        obtain ⟨t, -, d, hof, rfl⟩ := hleg l hl
        exact absurd ((Delivery.start_of_ofSession? hof).2.symm.trans hfailed) nofun
    · exact ⟨fun ⟨f, hf, _⟩ => absurd hf (hnobody f), fun ⟨f, hf, _⟩ => hnobody f hf⟩
  · exact ⟨fun ⟨f, hf, _⟩ => absurd hf (hnobody f), fun ⟨f, hf, _⟩ => hnobody f hf⟩

/-! ### The arrival -/

/-- An arrival concludes the deliveries, or nothing happens. -/
theorem arrive_cases (s : Live) :
    s.step .arrive = s ∨ ∃ f, s.flight = some f ∧
      s.step .arrive = { hub := (s.hub.conclude (f.legs.map (·.delivery))).2 } := by
  show s.arrive = s ∨ ∃ f, s.flight = some f ∧ s.arrive = _
  unfold arrive
  split
  · next f hf =>
    split
    · exact Or.inr ⟨f, hf, rfl⟩
    · exact Or.inl rfl
  · exact Or.inl rfl

/-- Deliveries have failed for an entry if one has failed on the transport that the entry has. -/
theorem Sound.failedFor_iff (hs : s.Sound) {f : Flight} (hflight : s.flight = some f)
    {u : Session} :
    Delivery.failedFor (f.legs.map (·.delivery)) u = true ↔
      ∃ id, u.stream.transport = some id ∧ s.Fails u.conn id := by
  constructor
  · intro hfailed
    obtain ⟨d, hd, hdfailed⟩ := (Option.any_eq_true _ _).mp hfailed
    obtain ⟨l, hl, rfl⟩ := List.mem_map.mp (List.mem_of_find?_eq_some hd)
    have hconcerns := List.find?_some hd
    simp only [Delivery.concerns, Bool.and_eq_true, beq_iff_eq] at hconcerns
    exact ⟨l.delivery.transport, hconcerns.2, f, hflight, l, hl, hconcerns.1, rfl, hdfailed⟩
  · rintro ⟨id, hid, f', hf', l, hl, hconn, rfl, hfailed⟩
    obtain rfl := Option.some.inj (hflight.symm.trans hf')
    have hnodup : ((f.legs.map (·.delivery)).map (·.conn)).Nodup := by
      rw [List.map_map]
      exact hs.conns f hflight
    rw [Delivery.failedFor, Delivery.find?_concerns hnodup (List.mem_map_of_mem hl) hconn hid]
    exact hfailed

/-- An entry whose transport is not used by the picture is left as it is. -/
theorem Sound.entry?_arrive_of_other (hs : s.Sound) {u : Session} (hu : u ∈ s.hub.sessions)
    (hother : ∀ id, s.Uses u.conn id → u.stream.transport ≠ some id) :
    Hub.entry? (s.step .arrive).hub u.conn = some u := by
  rcases s.arrive_cases with hsame | ⟨f, hflight, harrive⟩
  · rw [hsame]
    exact hs.entry?_conn hu
  · have hnone : (f.legs.map (·.delivery)).find? (Delivery.concerns u) = none := by
      refine List.find?_eq_none.mpr fun d hd hconcerns => ?_
      obtain ⟨l, hl, rfl⟩ := List.mem_map.mp hd
      simp only [Delivery.concerns, Bool.and_eq_true, beq_iff_eq] at hconcerns
      exact hother _ ⟨f, hflight, l, hl, hconcerns.1, rfl⟩ hconcerns.2
    rw [harrive, hs.toNumbered.entry?_conclude _ hu, Delivery.failedFor, Delivery.settle, hnone]
    rfl

/-- An entry that goes has the transport on which its delivery has failed. -/
theorem Sound.fails_of_arrive (hs : s.Sound) {u : Session} (hu : u ∈ s.hub.sessions)
    (hgone : Hub.entry? (s.step .arrive).hub u.conn = none) :
    ∃ id, u.stream.transport = some id ∧ s.Fails u.conn id := by
  rcases s.arrive_cases with hsame | ⟨f, hflight, harrive⟩
  · rw [hsame, hs.entry?_conn hu] at hgone
    cases hgone
  · rw [harrive, hs.toNumbered.entry?_conclude _ hu] at hgone
    split at hgone
    · next hfailed => exact (hs.failedFor_iff hflight).mp hfailed
    · cases hgone

/-- If the picture arrives, an entry with the transport on which its delivery has failed goes. -/
theorem Sound.entry?_arrive_of_fails (hs : s.Sound) (hlanded : (s.step .arrive).flight = none)
    {u : Session} (hu : u ∈ s.hub.sessions) (hid : u.stream.transport = some id)
    (hfails : s.Fails u.conn id) : Hub.entry? (s.step .arrive).hub u.conn = none := by
  rcases s.arrive_cases with hsame | ⟨f, hflight, harrive⟩
  · -- a delivery that has failed is on its way
    obtain ⟨f, hf, -⟩ := hfails
    exact absurd ((hsame ▸ hlanded).symm.trans hf) nofun
  · rw [harrive, hs.toNumbered.entry?_conclude _ hu,
      if_pos ((hs.failedFor_iff hflight).mpr ⟨id, hid, hfails⟩)]

/-- Nothing but the counters of a stream and the report that is due is put back. -/
theorem of_mem_arrive {t : Session} (ht : t ∈ (s.step .arrive).hub.sessions) :
    ∃ u ∈ s.hub.sessions, ∃ sequence packetCount octetCount reportDue,
      t = { u with
        stream := { u.stream with sequence, packetCount, octetCount, reportDue } } := by
  rcases s.arrive_cases with hsame | ⟨f, -, harrive⟩
  · exact ⟨t, hsame ▸ ht, _, _, _, _, rfl⟩
  · rw [harrive] at ht
    obtain ⟨u, hu, -, -, rfl⟩ := Hub.of_mem_conclude ht
    refine ⟨u, hu, ?_⟩
    unfold Delivery.settle
    split
    · exact ⟨_, _, _, _, rfl⟩
    · exact ⟨_, _, _, _, rfl⟩

/-! ### Entries with another transport -/

/-- A transport that an entry had and has not any more refuses everything from then on, and the
entry does not get it back. -/
theorem given_up {s' : Live} (hs : s.Sound) (howned : s.hub.Owned)
    (hc : Hub.Changes Session.Revised s.hub s'.hub) (hs' : s'.Sound) (hnotes : s.Notes conn id)
    {t : Session} (ht : t ∈ s'.hub.sessions) (hconn : t.conn = conn)
    (hleft : t.stream.transport ≠ some id) (moves : List Move) :
    (∀ lane packet, (s'.run moves).hub.media.send id lane packet = .error .stopped) ∧
      ∀ u ∈ (s'.run moves).hub.sessions, u.conn = conn → u.stream.transport ≠ some id := by
  obtain ⟨v, hv, rfl, -, hid⟩ := hnotes
  have hn' : s'.hub.Numbered := hs'.toNumbered
  obtain ⟨st, hst, hdone⟩ := howned.stopped_of_left hs.toNumbered hc hv hid
    fun u hu huconn => hn'.eq_of_conn hu ht (huconn.trans hconn.symm) ▸ hleft
  have hlater := changes_run hs' moves
  obtain ⟨st', hst', honward⟩ := hlater.onward hst
  exact ⟨Media.send_of_stopped hst' (honward.stopped hdone.2), fun u hu huconn =>
    hlater.not_holds hn' hst hdone.1 ht hu (huconn.trans hconn.symm) hleft⟩

/-- A transport that starts is not one that an entry has or had. -/
theorem other_of_setUp {s' : Live} (howned : s.hub.Owned)
    (hc : Hub.Changes Session.Revised s.hub s'.hub) (hs' : s'.Sound) (hnotes : s.Notes conn id)
    {transport : TransportId} {reply : SetupReply}
    (hsetup : (s'.hub.setUp conn transport).1 = .ok reply) :
    ∃ t ∈ (s'.step (.operation (.setUp conn transport))).hub.sessions,
      t.conn = conn ∧ t.stream.transport = some transport ∧ transport ≠ id := by
  obtain ⟨v, hv, -, -, hid⟩ := hnotes
  show ∃ t ∈ (s'.hub.setUp conn transport).2.sessions, _
  rcases s'.hub.setUp_cases conn transport with
    ⟨_, _, e⟩ | ⟨_, _, _, _, e⟩ | ⟨m, u, hm, hu, e⟩ <;> rw [e] at hsetup ⊢
  · cases hsetup
  · cases hsetup
  · refine ⟨_, (Hub.mem_bound hs'.toNumbered hu).mpr (Or.inl rfl),
      (Hub.mem_of_entry_eq hu).2, rfl, ?_⟩
    -- what was noted had started
    rintro rfl
    obtain ⟨st, hst, hrun⟩ := howned.running v hv _ hid
    obtain ⟨st', hst', honward⟩ := hc.onward hst
    obtain ⟨⟨st'', hst'', hfresh⟩, -⟩ := Media.start_eq_ok_iff.mp hm
    rw [hst'] at hst''
    rw [← Option.some.inj hst'', honward.started hrun.1] at hfresh
    cases hfresh

/-! ### After any run -/

section Opened

variable (settings : Settings) (authenticator : Option Authenticator)
  (packetizer : Jpeg.Packetizer) (entropy : Entropy) (ports : PortPool) (linkFault : Option Text)

/-- **A picture lands safely.**  After any run of a hub that was opened without connections a
picture departs, anything may happen while it is written, and it arrives:

* an entry that has gone in between is not there;
* an entry that has another transport than was noted, or none, is as it was;
* what is there was there, with all it had but the counters of its stream and the report that is
  due;
* an entry that goes has the transport that was noted, and that transport has refused one of its
  packets;
* if the picture does arrive, an entry does go whose transport has refused one of its packets;
* once an entry has another transport than was noted, the one that was noted refuses everything, and
  the entry is as it was;
* a SETUP gives an entry another transport than was noted. -/
theorem landing_safe (before between : List Move) (picture : Picture) (order : List Delivery)
    (hnone : (Live.run
      { hub := Hub.opened settings authenticator packetizer entropy ports linkFault }
      before).flight = none)
    (hbetween : ∀ mv ∈ between, mv.isMeanwhile = true) :
    let start := Live.run
      { hub := Hub.opened settings authenticator packetizer entropy ports linkFault } before
    let departed := start.step (.depart picture order)
    let last := departed.run between
    let landed := last.step .arrive
    (∀ pre post, between = pre ++ post → ∀ s ∈ start.hub.sessions,
      Hub.entry? (departed.run pre).hub s.conn = none → landed.hub.entry? s.conn = none) ∧
    (∀ u ∈ last.hub.sessions, (∀ id, start.Notes u.conn id → u.stream.transport ≠ some id) →
      landed.hub.entry? u.conn = some u) ∧
    (∀ t ∈ landed.hub.sessions, ∃ u ∈ last.hub.sessions,
      ∃ sequence packetCount octetCount reportDue, t = { u with
        stream := { u.stream with sequence, packetCount, octetCount, reportDue } }) ∧
    (∀ u ∈ last.hub.sessions, landed.hub.entry? u.conn = none → ∃ id,
      u.stream.transport = some id ∧ start.Notes u.conn id ∧
        Refused u.conn id departed between) ∧
    (landed.flight = none → ∀ u ∈ last.hub.sessions, ∀ id, u.stream.transport = some id →
      Refused u.conn id departed between → landed.hub.entry? u.conn = none) ∧
    (∀ pre post, between = pre ++ post → ∀ conn id, start.Notes conn id →
      ∀ t ∈ (departed.run pre).hub.sessions, t.conn = conn → t.stream.transport ≠ some id →
        (∀ lane packet, last.hub.media.send id lane packet = .error .stopped) ∧
        ∀ u ∈ last.hub.sessions, u.conn = conn → landed.hub.entry? conn = some u) ∧
    ∀ pre post, between = pre ++ post → ∀ conn id, start.Notes conn id →
      ∀ transport reply, ((departed.run pre).hub.setUp conn transport).1 = .ok reply →
        ∃ t ∈ ((departed.run pre).step (.operation (.setUp conn transport))).hub.sessions,
          t.conn = conn ∧ t.stream.transport = some transport ∧ transport ≠ id := by
  intro start departed last landed
  have hopened :=
    sound_opened settings authenticator packetizer entropy ports linkFault
  have hs : start.Sound := hopened.run before
  have howned : start.hub.Owned :=
    (Hub.owned_opened settings authenticator packetizer entropy ports linkFault).changes
      hopened.toNumbered (changes_run hopened before)
  have hdeparted : departed.Sound := hs.step _
  have hpre : ∀ pre, (departed.run pre).Sound := fun pre => hdeparted.run pre
  have hlast : last.Sound := hpre between
  have hsince : ∀ pre, Hub.Changes Session.Revised start.hub (departed.run pre).hub := fun pre =>
    (changes_step hs _).trans (changes_run hdeparted pre)
  have hnotes : ∀ {conn id}, last.Uses conn id → start.Notes conn id := fun h =>
    (underway_depart hnone picture order).1 ((underway_run hbetween).1 h)
  have hfails : ∀ {conn id}, last.Fails conn id ↔ Refused conn id departed between := by
    intro conn id
    rw [(underway_run hbetween).2]
    exact or_iff_right (underway_depart hnone picture order).2
  refine ⟨?_, fun u hu hother => ?_, fun t ht => of_mem_arrive ht, fun u hu hgone => ?_,
    fun hlanded u hu id hid hrefused => ?_, ?_, ?_⟩
  · rintro pre post hsplit s hmem hgone
    have hlater : Hub.Changes Session.Revised (departed.run pre).hub landed.hub := by
      have hrest := changes_run (hpre pre) post
      rw [← run_append, ← hsplit] at hrest
      exact hrest.trans (changes_step hlast .arrive)
    refine Hub.entry?_eq_none_iff.mpr (hlater.gone (hpre pre).toNumbered ?_
      (Hub.entry?_eq_none_iff.mp hgone))
    exact Nat.lt_of_lt_of_le (hs.below s hmem) (Hub.Changes.nextConn_le (hsince pre))
  · exact hlast.entry?_arrive_of_other hu fun id huses => hother id (hnotes huses)
  · obtain ⟨id, hid, h⟩ := hlast.fails_of_arrive hu hgone
    exact ⟨id, hid, hnotes h.uses, hfails.mp h⟩
  · exact hlast.entry?_arrive_of_fails hlanded hu hid (hfails.mpr hrefused)
  · rintro pre post hsplit conn id hnoted t ht hconn hleft
    have hgiven := given_up hs howned (hsince pre) (hpre pre) hnoted ht hconn hleft post
    rw [← run_append, ← hsplit] at hgiven
    refine ⟨hgiven.1, fun u hu huconn => ?_⟩
    rw [← huconn]
    refine hlast.entry?_arrive_of_other hu fun other huses hother => ?_
    -- one transport is noted for a connection
    obtain ⟨v, hv, hvconn, -, hvid⟩ := hnotes huses
    obtain ⟨w, hw, hwconn, -, hwid⟩ := hnoted
    rw [hs.eq_of_conn hv hw (hvconn.trans (huconn.trans hwconn.symm)), hwid] at hvid
    exact hgiven.2 u hu huconn (hother.trans hvid.symm)
  · rintro pre post - conn id hnoted transport reply hsetup
    exact other_of_setUp howned (hsince pre) (hpre pre) hnoted hsetup

end Opened

/-- **An entry outlives its old transport.**  One connection plays, and a picture of one packet is
on its way to it.  Another transport is bound after the report, so the old one refuses the packet.
The entry is as it was when the picture arrives. -/
theorem replaced_outlives :
    let departed := oneViewer.step (.depart Jpeg.tinyPicture oneViewer.hub.deliveries)
    let between := [.write ⟨0, 0⟩, .operation (.setUp 1 1), .write ⟨0, 0⟩]
    let landed := (departed.run between).step .arrive
    Refused 1 0 departed between ∧ landed.flight = none ∧
      ∃ u ∈ (departed.run between).hub.sessions, u.conn = 1 ∧ landed.hub.entry? 1 = some u := by
  intro departed between landed
  have hland := landing_safe {} none smallPackets
    ⟨UInt16.ofNat, UInt32.ofNat, UInt64.ofNat, 0, 0, 0⟩ {} none
    [.operation (.connect ⟨.v4 127 0 0 1, 4000, 0⟩ {} 0),
      .operation (.incident (.made (.memory .udp none false))),
      .operation (.incident (.made (.memory .udp none false))), .operation (.setUp 1 0),
      .operation (.play (Entropy.sessionName 0))]
    between Jpeg.tinyPicture oneViewer.hub.deliveries (by decide +kernel)
    (by simp [between, Move.isMeanwhile])
  obtain ⟨-, -, -, -, -, hreplaced, -⟩ := hland
  have hpre : ∃ t ∈ (departed.run (between.take 2)).hub.sessions,
      t.conn = 1 ∧ t.stream.transport = some 1 := by decide +kernel
  have hnotes : oneViewer.Notes 1 0 := by
    show ∃ t ∈ oneViewer.hub.sessions, _
    decide +kernel
  have hlast : ∃ u ∈ (departed.run between).hub.sessions, u.conn = 1 := by decide +kernel
  obtain ⟨t, ht, hconn, htransport⟩ := hpre
  obtain ⟨u, hu, huconn⟩ := hlast
  refine ⟨by decide +kernel, by decide +kernel, u, hu, huconn, ?_⟩
  exact (hreplaced (between.take 2) (between.drop 2) rfl 1 0 hnotes t ht hconn
    (by simp [htransport])).2 u hu huconn

end Live

end RtspServer
