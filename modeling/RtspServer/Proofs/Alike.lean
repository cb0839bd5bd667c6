/-
RtspServer/Proofs/Alike.lean

What sending to one transport depends on, and what it changes.  A transport and
the outlet that it writes to are all it works with; the host's link is the only
other thing that matters.

* What is sent to one transport leaves every other transport and outlet alone
  (`Media.Confined`).
* Wherever a transport, its outlet and the link are the same, the same packets
  have the same effect on them, whatever else there is (`Media.Alike`).

So when packets are sent from all deliveries, each delivery does what it would
have done alone (`Delivery.sendAll_parallel`).

Two runs may differ in the time that sender reports tell.  `Alike` therefore has
a relation `R` as a parameter, which says how control packets may differ; with
equality for `R` nothing differs.
-/
import RtspServer.Proofs.Handover
import Mathlib.Data.List.Forall2

namespace RtspServer

/-! ### Alike packets, transports and outlets -/

section Like

variable (R : Bytes → Bytes → Prop)

/-- Packets on the same lane that are equal, or are control packets within `R`. -/
def LikePacket (p q : Lane × Bytes) : Prop :=
  p = q ∨ (p.1 = .control ∧ q.1 = .control ∧ R p.2 q.2)

/-- Messages that are equal, or `$` frames on the same channel around packets within `R`. -/
def LikeMessage (a b : Bytes) : Prop :=
  a = b ∨ ∃ channel p q, R p q ∧ Frame.write ⟨channel, p⟩ = .ok a ∧
    Frame.write ⟨channel, q⟩ = .ok b

/-- Transports that differ at most in the packets they have carried, and there within `R`. -/
structure Transport.Like (t u : Transport) : Prop where
  rest : u = { t with carried := u.carried }
  carried : List.Forall₂ (LikePacket R) t.carried u.carried

/-- Outlets that differ at most in what was written, and there within `R`. -/
structure Outlet.Like (o p : Outlet) : Prop where
  rest : p = { o with written := p.written }
  written : List.Forall₂ (LikeMessage R) o.written p.written

/-- Media in which one transport, one outlet and the link are alike. -/
structure Media.Alike (id : TransportId) (outlet : OutletId) (m n : Media) : Prop where
  transport : Option.Rel (Transport.Like R) m.transports[id]? n.transports[id]?
  outlet : Option.Rel (Outlet.Like R) m.outlets[outlet]? n.outlets[outlet]?
  linkFault : n.linkFault = m.linkFault

end Like

/-- Two packets of a size that differ at most in octets 8 to 15, where a sender report tells the
time. -/
def SameButTime (p q : Bytes) : Prop :=
  p.length = q.length ∧ ∀ k, (k < 8 ∨ 16 ≤ k) → p[k]? = q[k]?

/-- Reports that differ in the time differ nowhere else. -/
theorem Rtcp.SenderReport.sameButTime_write (r : SenderReport) (ntp : NtpTime) :
    SameButTime r.write { r with ntp }.write := by
  refine ⟨rfl, fun k hk => ?_⟩
  -- by the place of the octet; those of the time are ruled out
  match k, hk with
  | 0, _ | 1, _ | 2, _ | 3, _ | 4, _ | 5, _ | 6, _ | 7, _ => rfl
  | k + 16, _ => rfl
  | 8, h | 9, h | 10, h | 11, h | 12, h | 13, h | 14, h | 15, h => omega

theorem rel_cases {α : Type} {r : α → α → Prop} {x y : Option α} (h : Option.Rel r x y) :
    (x = none ∧ y = none) ∨ ∃ a b, x = some a ∧ y = some b ∧ r a b := by
  cases h with
  | none => exact Or.inl ⟨rfl, rfl⟩
  | some hab => exact Or.inr ⟨_, _, rfl, rfl, hab⟩

/-- The outlet that an interleaved carrier writes to. -/
def Carrier.outlet? : Carrier → Option OutletId
  | .interleaved outlet _ => some outlet
  | _ => none

namespace Media

/-- An interleaved transport with a number writes to a certain outlet. -/
def Writes (m : Media) (id : TransportId) (outlet : OutletId) : Prop :=
  ∀ t other channels, m.transports[id]? = some t → t.carrier = .interleaved other channels →
    other = outlet

instance (m : Media) (id : TransportId) (outlet : OutletId) : Decidable (m.Writes id outlet) :=
  decidable_of_iff (∀ t ∈ m.transports[id]?, ∀ other ∈ t.carrier.outlet?, other = outlet) (by
    constructor
    · intro h t other channels ht hc
      exact h t ht other (by rw [hc]; exact rfl)
    · intro h t ht other ho
      rcases hc : t.carrier with ⟨o, channels⟩ | _ | _ <;> rw [hc] at ho <;> cases ho
      exact h t other channels ht hc)

/-! ### Media that are alike -/

section Alike

variable {R : Bytes → Bytes → Prop} {id : TransportId} {outlet : OutletId} {m n : Media}

/-- Where nothing is different things are alike. -/
theorem Alike.of_eq (htransport : m.transports[id]? = n.transports[id]?)
    (houtlet : m.outlets[outlet]? = n.outlets[outlet]?) (hlink : n.linkFault = m.linkFault) :
    Alike R id outlet m n := by
  refine ⟨?_, ?_, hlink⟩
  · rw [htransport]
    rcases n.transports[id]? with - | t
    · exact .none
    · exact .some ⟨rfl, List.forall₂_same.mpr fun _ _ => Or.inl rfl⟩
  · rw [houtlet]
    rcases n.outlets[outlet]? with - | o
    · exact .none
    · exact .some ⟨rfl, List.forall₂_same.mpr fun _ _ => Or.inl rfl⟩

/-- If control packets may not differ, nothing does. -/
theorem Alike.eq (h : Alike Eq id outlet m n) :
    n.transports[id]? = m.transports[id]? ∧ n.outlets[outlet]? = m.outlets[outlet]? := by
  have hpackets : ∀ {l k : List (Lane × Bytes)}, List.Forall₂ (LikePacket Eq) l k → l = k := by
    intro l k hlk
    refine List.forall₂_eq_eq_eq ▸ hlk.imp fun p q hpq => ?_
    rcases hpq with rfl | ⟨hp, hq, he⟩
    · rfl
    · exact Prod.ext (hp.trans hq.symm) he
  have hmessages : ∀ {l k : List Bytes}, List.Forall₂ (LikeMessage Eq) l k → l = k := by
    intro l k hlk
    refine List.forall₂_eq_eq_eq ▸ hlk.imp fun a b hab => ?_
    rcases hab with rfl | ⟨channel, p, q, rfl, ha, hb⟩
    · rfl
    · exact Except.ok.inj (ha.symm.trans hb)
  constructor
  · rcases rel_cases h.transport with ⟨hm, hn⟩ | ⟨t, u, hm, hn, htu⟩
    · rw [hm, hn]
    · rw [hm, hn, htu.rest, ← hpackets htu.carried]
  · rcases rel_cases h.outlet with ⟨hm, hn⟩ | ⟨o, p, hm, hn, hop⟩
    · rw [hm, hn]
    · rw [hm, hn, hop.rest, ← hmessages hop.written]

theorem Alike.updateTransport (h : Alike R id outlet m n) {f g : Transport → Transport}
    (hfg : ∀ t u, t.Like R u → (f t).Like R (g u)) :
    Alike R id outlet (m.updateTransport id f) (n.updateTransport id g) := by
  refine ⟨?_, h.outlet, h.linkFault⟩
  simp only [Media.updateTransport, List.getElem?_modify_eq]
  rcases rel_cases h.transport with ⟨hm, hn⟩ | ⟨t, u, hm, hn, htu⟩
  · rw [hm, hn]
    exact .none
  · rw [hm, hn]
    exact .some (hfg t u htu)

theorem Alike.updateOutlet (h : Alike R id outlet m n) {f g : Outlet → Outlet}
    (hfg : ∀ o p, m.outlets[outlet]? = some o → n.outlets[outlet]? = some p → o.Like R p →
      (f o).Like R (g p)) :
    Alike R id outlet (m.updateOutlet outlet f) (n.updateOutlet outlet g) := by
  refine ⟨h.transport, ?_, h.linkFault⟩
  simp only [Media.updateOutlet, List.getElem?_modify_eq]
  rcases rel_cases h.outlet with ⟨hm, hn⟩ | ⟨o, p, hm, hn, hop⟩
  · rw [hm, hn]
    exact .none
  · rw [hm, hn]
    exact .some (hfg o p hm hn hop)

theorem Alike.noteCarried (h : Alike R id outlet m n) {lane : Lane} {p q : Bytes}
    (hpq : LikePacket R (lane, p) (lane, q)) :
    Alike R id outlet (m.noteCarried id lane p) (n.noteCarried id lane q) := by
  refine h.updateTransport fun t u htu => ⟨?_, .cons hpq htu.carried⟩
  rw [htu.rest]

/-- Alike messages are both written, or neither is. -/
theorem Alike.writeOutlet (h : Alike R id outlet m n) {a b : Bytes} (hab : LikeMessage R a b) :
    (∃ fault, m.writeOutlet outlet a = .error fault ∧ n.writeOutlet outlet b = .error fault) ∨
      ∃ m' n', m.writeOutlet outlet a = .ok m' ∧ n.writeOutlet outlet b = .ok n' ∧
        Alike R id outlet m' n' := by
  unfold Media.writeOutlet
  rcases rel_cases h.outlet with ⟨hm, hn⟩ | ⟨o, p, hm, hn, hop⟩
  · exact Or.inl ⟨_, by rw [hm], by rw [hn]⟩
  rw [hm, hn]
  -- whether an outlet takes a message has nothing to do with the message
  have htaken : (∃ fault, o.write a = .error fault ∧ p.write b = .error fault) ∨
      ∃ o' p', o.write a = .ok o' ∧ p.write b = .ok p' ∧ o'.Like R p' := by
    have hshut : p.shut = o.shut := by rw [hop.rest]
    have hbudget : p.budget = o.budget := by rw [hop.rest]
    unfold Outlet.write
    rw [hshut, hbudget]
    split
    · exact Or.inl ⟨_, rfl, rfl⟩
    · split
      · refine Or.inr ⟨_, _, rfl, rfl, ?_, .cons hab hop.written⟩
        rw [hop.rest]
      · exact Or.inl ⟨_, rfl, rfl⟩
      · refine Or.inr ⟨_, _, rfl, rfl, ?_, .cons hab hop.written⟩
        rw [hop.rest]
  rcases htaken with ⟨fault, ho, hp⟩ | ⟨o', p', ho, hp, hop'⟩
  · exact Or.inl ⟨fault, by simp only [ho]; rfl, by simp only [hp]; rfl⟩
  · exact Or.inr ⟨_, _, by simp only [ho]; rfl, by simp only [hp]; rfl,
      h.updateOutlet fun _ _ _ _ _ => hop'⟩

/-- **Alike packets have alike effects**: they are both taken, or both refused for the same
reason. -/
theorem Alike.send (hsize : ∀ p q, R p q → p.length = q.length) (h : Alike R id outlet m n)
    (hw : m.Writes id outlet) {lane : Lane} {p q : Bytes}
    (hpq : LikePacket R (lane, p) (lane, q)) :
    (∃ fault, m.send id lane p = .error fault ∧ n.send id lane q = .error fault) ∨
      ∃ m' n', m.send id lane p = .ok m' ∧ n.send id lane q = .ok n' ∧
        Alike R id outlet m' n' := by
  have hlength : p.length = q.length := by
    rcases hpq with he | ⟨-, -, hr⟩
    · exact congrArg (List.length ∘ Prod.snd) he
    · exact hsize p q hr
  unfold Media.send
  rcases rel_cases h.transport with ⟨hm, hn⟩ | ⟨t, u, hm, hn, htu⟩
  · exact Or.inl ⟨_, by rw [hm], by rw [hn]⟩
  rw [hm, hn]
  have hstopped : u.stopped = t.stopped := by rw [htu.rest]
  have hcarrier : u.carrier = t.carrier := by rw [htu.rest]
  simp only [hstopped, hcarrier]
  split
  · exact Or.inl ⟨_, rfl, rfl⟩
  -- one case for each carrier
  split
  · next other channels hc =>
    obtain rfl := hw t other channels hm hc
    by_cases hfits : p.length < UInt16.size
    · have hfits' : q.length < UInt16.size := hlength ▸ hfits
      have hframe : ∀ x : Bytes, x.length < UInt16.size →
          ∃ a, Frame.write ⟨channels.lane lane, x⟩ = .ok a := fun x hx => ⟨_, if_pos hx⟩
      obtain ⟨a, ha⟩ := hframe p hfits
      obtain ⟨b, hb⟩ := hframe q hfits'
      have hab : LikeMessage R a b := by
        rcases hpq with he | ⟨-, -, hr⟩
        · obtain rfl : p = q := congrArg Prod.snd he
          exact Or.inl (Except.ok.inj (ha.symm.trans hb))
        · exact Or.inr ⟨_, p, q, hr, ha, hb⟩
      rcases h.writeOutlet hab with ⟨fault, hwm, hwn⟩ | ⟨m', n', hwm, hwn, h'⟩
      · exact Or.inl ⟨fault, by simp only [ha, hwm, bind, Except.bind],
          by simp only [hb, hwn, bind, Except.bind]⟩
      · exact Or.inr ⟨_, _, by simp only [ha, hwm, bind, Except.bind, pure, Except.pure],
          by simp only [hb, hwn, bind, Except.bind, pure, Except.pure], h'.noteCarried hpq⟩
    · have hfits' : ¬q.length < UInt16.size := hlength ▸ hfits
      have hrefused : ∀ x : Bytes, ¬x.length < UInt16.size →
          Frame.write ⟨channels.lane lane, x⟩ = .error (.frameTooLarge x.length) :=
        fun x hx => if_neg hx
      exact Or.inl ⟨.frameTooLarge p.length, by simp only [hrefused p hfits, bind, Except.bind],
        by simp only [hrefused q hfits', bind, Except.bind, hlength]⟩
  · next client clientPorts hc =>
    have hfault : n.datagramFault? client (clientPorts.lane lane) q.length =
        m.datagramFault? client (clientPorts.lane lane) p.length := by
      simp only [Media.datagramFault?, h.linkFault, hlength]
    rw [hfault]
    split
    · exact Or.inl ⟨_, rfl, rfl⟩
    · exact Or.inr ⟨_, _, rfl, rfl, h.noteCarried hpq⟩
  · split
    · split
      · exact Or.inl ⟨_, rfl, rfl⟩
      · exact Or.inr ⟨_, _, rfl, rfl, h.noteCarried hpq⟩
    · split
      · exact Or.inl ⟨_, rfl, rfl⟩
      · have hspent : Alike R id outlet
            (m.updateTransport id fun t => { t with carrier := spendBudget t.carrier })
            (n.updateTransport id fun t => { t with carrier := spendBudget t.carrier }) :=
          h.updateTransport fun t u htu => ⟨by rw [htu.rest], htu.carried⟩
        exact Or.inr ⟨_, _, rfl, rfl, hspent.noteCarried hpq⟩

end Alike

/-! ### What sending leaves alone -/

/-- `m'` differs from `m` at most in one transport and one outlet, and the transport still writes to
the outlet if it did. -/
structure Confined (id : TransportId) (outlet : OutletId) (m m' : Media) : Prop where
  transports : ∀ i, i ≠ id → m'.transports[i]? = m.transports[i]?
  outlets : ∀ i, i ≠ outlet → m'.outlets[i]? = m.outlets[i]?
  ports : m'.ports = m.ports
  linkFault : m'.linkFault = m.linkFault
  writes : m.Writes id outlet → m'.Writes id outlet

section Confined

variable {id : TransportId} {outlet : OutletId}

theorem Confined.refl (m : Media) : Confined id outlet m m :=
  ⟨fun _ _ => rfl, fun _ _ => rfl, rfl, rfl, fun h => h⟩

theorem Confined.trans {a b c : Media} (hab : Confined id outlet a b)
    (hbc : Confined id outlet b c) : Confined id outlet a c :=
  ⟨fun i hi => (hbc.transports i hi).trans (hab.transports i hi),
    fun i hi => (hbc.outlets i hi).trans (hab.outlets i hi), hbc.ports.trans hab.ports,
    hbc.linkFault.trans hab.linkFault, fun h => hbc.writes (hab.writes h)⟩

/-- Changing a transport so that it writes to no new outlet. -/
theorem confined_updateTransport {f : Transport → Transport}
    (hf : ∀ t other channels, (f t).carrier = .interleaved other channels →
      t.carrier = .interleaved other channels) (m : Media) :
    Confined id outlet m (m.updateTransport id f) := by
  refine ⟨fun i hi => ?_, fun _ _ => rfl, rfl, rfl, fun hw t other channels ht hc => ?_⟩
  · simp only [Media.updateTransport, List.getElem?_modify_ne f _ (Ne.symm hi)]
  · simp only [Media.updateTransport, List.getElem?_modify_eq, Option.map_eq_map,
      Option.map_eq_some_iff] at ht
    obtain ⟨u, hu, rfl⟩ := ht
    exact hw u other channels hu (hf u other channels hc)

theorem confined_noteCarried (m : Media) (lane : Lane) (packet : Bytes) :
    Confined id outlet m (m.noteCarried id lane packet) :=
  confined_updateTransport (f := fun t => { t with carried := (lane, packet) :: t.carried })
    (fun _ _ _ hc => hc) m

theorem confined_updateOutlet (m : Media) (f : Outlet → Outlet) :
    Confined id outlet m (m.updateOutlet outlet f) := by
  refine ⟨fun _ _ => rfl, fun i hi => ?_, rfl, rfl, fun hw => hw⟩
  simp only [Media.updateOutlet, List.getElem?_modify_ne f _ (Ne.symm hi)]

/-- **Sending to a transport changes nothing but the transport and its outlet.** -/
theorem confined_send {m m' : Media} {lane : Lane} {packet : Bytes} (hw : m.Writes id outlet)
    (h : m.send id lane packet = .ok m') : Confined id outlet m m' := by
  unfold Media.send at h
  split at h
  · cases h
  next t ht =>
  split at h
  · cases h
  -- one case for each carrier
  split at h
  · next other channels hc =>
    obtain rfl := hw t other channels ht hc
    rcases e : Frame.write ⟨channels.lane lane, packet⟩ with _ | frame
    · simp [e, bind, Except.bind] at h
    rcases w : m.writeOutlet other frame with _ | m₁
    · simp [e, w, bind, Except.bind] at h
    · simp only [e, w, bind, Except.bind, pure, Except.pure, Except.ok.injEq] at h
      obtain ⟨o, rfl⟩ := exists_of_writeOutlet w
      exact h ▸ (confined_updateOutlet m _).trans (confined_noteCarried _ lane packet)
  · split at h
    · cases h
    · exact Except.ok.inj h ▸ confined_noteCarried m lane packet
  · split at h
    · split at h
      · cases h
      · exact Except.ok.inj h ▸ confined_noteCarried m .control packet
    · split at h
      · cases h
      · refine Except.ok.inj h ▸ (confined_updateTransport (fun t other channels hc => ?_) m).trans
          (confined_noteCarried _ .data packet)
        -- an interleaved carrier has no budget to spend
        unfold spendBudget at hc
        split at hc
        · cases hc
        · exact hc

/-- What is confined elsewhere is no difference here. -/
theorem Confined.alike {R : Bytes → Bytes → Prop} {other : TransportId} {otherOutlet : OutletId}
    {m m' : Media} (h : Confined other otherOutlet m m') (hid : id ≠ other)
    (houtlet : outlet ≠ otherOutlet) : Alike R id outlet m m' :=
  .of_eq (h.transports id hid).symm (h.outlets outlet houtlet).symm h.linkFault

end Confined

end Media

/-! ### Deliveries -/

namespace Delivery

section Send

variable {R : Bytes → Bytes → Prop} (hsize : ∀ p q, R p q → p.length = q.length)
  {outlet : OutletId}

theorem confined_sendReport {d : Delivery} {m : Media} (hw : m.Writes d.transport outlet)
    (clock : UInt32) (wall : Rtcp.NtpTime) :
    Media.Confined d.transport outlet m (d.sendReport clock wall m).2 := by
  unfold sendReport
  split
  · split
    · next hsend => exact Media.confined_send hw hsend
    · exact .refl m
  · exact .refl m

theorem confined_foldl_sendPacket (packets : List Bytes) (state : Delivery × Media)
    (hw : state.2.Writes state.1.transport outlet) :
    Media.Confined state.1.transport outlet state.2 (packets.foldl sendPacket state).2 := by
  induction packets generalizing state with
  | nil => exact .refl _
  | cons packet rest ih =>
    obtain ⟨d, m⟩ := state
    cases hf : d.failed with
    | true =>
      rw [foldl_sendPacket_of_failed hf]
      exact .refl m
    | false =>
      have htransport := (@sent_sendPacket (d, m) hf packet).transport
      have hstep : Media.Confined d.transport outlet m (sendPacket (d, m) packet).2 := by
        simp only [sendPacket, hf, Bool.false_eq_true, if_false]
        split
        · next hsend => exact Media.confined_send hw hsend
        · exact .refl m
      have hrest := ih (sendPacket (d, m) packet) (htransport ▸ hstep.writes hw)
      rw [htransport] at hrest
      exact hstep.trans hrest

/-- **A delivery changes nothing but its transport and the outlet of it.** -/
theorem confined_send {d : Delivery} {m : Media} (hw : m.Writes d.transport outlet)
    (clock : UInt32) (wall : Rtcp.NtpTime) (packets : List Bytes) :
    Media.Confined d.transport outlet m (d.send clock wall packets m).2 := by
  have hreport := confined_sendReport hw clock wall
  have htransport := (sent_sendReport clock wall d m).transport
  have hpackets := confined_foldl_sendPacket packets (d.sendReport clock wall m)
    (htransport ▸ hreport.writes hw)
  rw [htransport] at hpackets
  exact hreport.trans hpackets

include hsize

theorem alike_sendReport {d : Delivery} {m n : Media} (h : Media.Alike R d.transport outlet m n)
    (hw : m.Writes d.transport outlet) (clock : UInt32) {wall wall' : Rtcp.NtpTime}
    (hwall : R (d.senderReport clock wall).write (d.senderReport clock wall').write) :
    (d.sendReport clock wall' n).1 = (d.sendReport clock wall m).1 ∧
      Media.Alike R d.transport outlet (d.sendReport clock wall m).2
        (d.sendReport clock wall' n).2 := by
  unfold sendReport
  split
  · have hreports : LikePacket R (.control, (d.senderReport clock wall).write)
        (.control, (d.senderReport clock wall').write) := Or.inr ⟨rfl, rfl, hwall⟩
    rcases h.send hsize hw hreports with ⟨fault, hm, hn⟩ | ⟨m', n', hm, hn, h'⟩
    · rw [hm, hn]
      exact ⟨rfl, h⟩
    · rw [hm, hn]
      exact ⟨rfl, h'⟩
  · exact ⟨rfl, h⟩

theorem alike_foldl_sendPacket (packets : List Bytes) {d : Delivery} {m n : Media}
    (h : Media.Alike R d.transport outlet m n) (hw : m.Writes d.transport outlet) :
    (packets.foldl sendPacket (d, n)).1 = (packets.foldl sendPacket (d, m)).1 ∧
      Media.Alike R d.transport outlet (packets.foldl sendPacket (d, m)).2
        (packets.foldl sendPacket (d, n)).2 := by
  induction packets generalizing d m n with
  | nil => exact ⟨rfl, h⟩
  | cons packet rest ih =>
    rw [List.foldl_cons, List.foldl_cons]
    cases hf : d.failed with
    | true =>
      have hm : sendPacket (d, m) packet = (d, m) := by simp [sendPacket, hf]
      have hn : sendPacket (d, n) packet = (d, n) := by simp [sendPacket, hf]
      rw [hm, hn]
      exact ih h hw
    | false =>
      have hsame : LikePacket R (.data, d.stamped packet) (.data, d.stamped packet) := Or.inl rfl
      have hboth := h.send hsize hw hsame
      simp only [sendPacket, hf, Bool.false_eq_true, if_false]
      rcases hboth with ⟨fault, hm, hn⟩ | ⟨m', n', hm, hn, h'⟩
      · rw [hm, hn]
        exact ih h hw
      · rw [hm, hn]
        exact ih h' ((Media.confined_send hw hm).writes hw)

/-- **What a delivery does depends on nothing but its transport, the outlet of it and the link.** -/
theorem alike_send {d : Delivery} {m n : Media} (h : Media.Alike R d.transport outlet m n)
    (hw : m.Writes d.transport outlet) (clock : UInt32) {wall wall' : Rtcp.NtpTime}
    (hwall : R (d.senderReport clock wall).write (d.senderReport clock wall').write)
    (packets : List Bytes) :
    (d.send clock wall' packets n).1 = (d.send clock wall packets m).1 ∧
      Media.Alike R d.transport outlet (d.send clock wall packets m).2
        (d.send clock wall' packets n).2 := by
  obtain ⟨hsame, hreport⟩ := alike_sendReport hsize h hw clock hwall
  have htransport := (sent_sendReport clock wall d m).transport
  have hwrites := (confined_sendReport hw clock wall).writes hw
  unfold send
  rcases hm : d.sendReport clock wall m with ⟨d₁, m₁⟩
  rcases hn : d.sendReport clock wall' n with ⟨d₂, n₁⟩
  rw [hm, hn] at hsame hreport
  rw [hm] at htransport hwrites
  obtain rfl : d₂ = d₁ := hsame
  have htransport : d₂.transport = d.transport := htransport
  rw [← htransport] at hreport hwrites ⊢
  exact alike_foldl_sendPacket hsize packets hreport hwrites

end Send

/-! ### All deliveries -/

/-- Deliveries that have nothing in common: no two use the same transport or write to the same
outlet, as `out` says which one is whose. -/
structure Disjoint (out : Delivery → OutletId) (deliveries : List Delivery) (m : Media) : Prop where
  transports : deliveries.Pairwise fun d e => d.transport ≠ e.transport
  outlets : deliveries.Pairwise fun d e => out d ≠ out e
  writes : ∀ d ∈ deliveries, m.Writes d.transport (out d)

/-- `m'` is `m` after every delivery has done its part, each by itself. -/
structure Parallel (clock : UInt32) (wall : Rtcp.NtpTime) (packets : List Bytes)
    (out : Delivery → OutletId) (deliveries : List Delivery) (m m' : Media) : Prop where
  own : ∀ d ∈ deliveries,
    m'.transports[d.transport]? = (d.send clock wall packets m).2.transports[d.transport]? ∧
      m'.outlets[out d]? = (d.send clock wall packets m).2.outlets[out d]?
  transports : ∀ i, (∀ d ∈ deliveries, d.transport ≠ i) → m'.transports[i]? = m.transports[i]?
  outlets : ∀ i, (∀ d ∈ deliveries, out d ≠ i) → m'.outlets[i]? = m.outlets[i]?
  ports : m'.ports = m.ports
  linkFault : m'.linkFault = m.linkFault

/-- **Sending one after the other is sending side by side.** -/
theorem sendAll_parallel (clock : UInt32) (wall : Rtcp.NtpTime) (packets : List Bytes)
    {out : Delivery → OutletId} {deliveries : List Delivery} {m : Media}
    (h : Disjoint out deliveries m) :
    (sendAll clock wall packets deliveries m).1 =
        deliveries.map (fun d => (d.send clock wall packets m).1) ∧
      Parallel clock wall packets out deliveries m
        (sendAll clock wall packets deliveries m).2 := by
  induction deliveries generalizing m with
  | nil => exact ⟨rfl, ⟨fun _ hd => absurd hd List.not_mem_nil, fun _ _ => rfl, fun _ _ => rfl,
      rfl, rfl⟩⟩
  | cons d rest ih =>
    obtain ⟨hdt, htransports⟩ := List.pairwise_cons.mp h.transports
    obtain ⟨hdo, houtlets⟩ := List.pairwise_cons.mp h.outlets
    have hconfined := confined_send (h.writes d List.mem_cons_self) clock wall packets
    -- the first delivery is no difference for the others
    have halike : ∀ e ∈ rest,
        Media.Alike Eq e.transport (out e) m (d.send clock wall packets m).2 := fun e he =>
      hconfined.alike (Ne.symm (hdt e he)) (Ne.symm (hdo e he))
    have hsame : ∀ e ∈ rest, (e.send clock wall packets (d.send clock wall packets m).2).1 =
        (e.send clock wall packets m).1 ∧
        Media.Alike Eq e.transport (out e) (e.send clock wall packets m).2
          (e.send clock wall packets (d.send clock wall packets m).2).2 := fun e he =>
      alike_send (fun _ _ he => congrArg List.length he) (halike e he)
        (h.writes e (List.mem_cons_of_mem _ he)) clock rfl packets
    have hrest : Disjoint out rest (d.send clock wall packets m).2 := by
      refine ⟨htransports, houtlets, fun e he t other channels ht hc => ?_⟩
      rw [hconfined.transports e.transport (Ne.symm (hdt e he))] at ht
      exact h.writes e (List.mem_cons_of_mem _ he) t other channels ht hc
    obtain ⟨hlist, hparallel⟩ := ih hrest
    constructor
    · rw [sendAll, List.map_cons]
      show _ :: (sendAll clock wall packets rest (d.send clock wall packets m).2).1 = _
      rw [hlist]
      exact congrArg _ (List.map_congr_left fun e he => (hsame e he).1)
    · show Parallel clock wall packets out (d :: rest) m
        (sendAll clock wall packets rest (d.send clock wall packets m).2).2
      refine ⟨fun e he => ?_, fun i hi => ?_, fun i hi => ?_,
        hparallel.ports.trans hconfined.ports, hparallel.linkFault.trans hconfined.linkFault⟩
      · rcases List.mem_cons.mp he with rfl | he
        · -- the others leave what the first one did alone
          exact ⟨hparallel.transports _ fun e he => Ne.symm (hdt e he),
            hparallel.outlets _ fun e he => Ne.symm (hdo e he)⟩
        · obtain ⟨htransport, houtlet⟩ := hparallel.own e he
          obtain ⟨hsameTransport, hsameOutlet⟩ := (hsame e he).2.eq
          exact ⟨htransport.trans hsameTransport, houtlet.trans hsameOutlet⟩
      · rw [hparallel.transports i fun e he => hi e (List.mem_cons_of_mem _ he),
          hconfined.transports i (Ne.symm (hi d List.mem_cons_self))]
      · rw [hparallel.outlets i fun e he => hi e (List.mem_cons_of_mem _ he),
          hconfined.outlets i (Ne.symm (hi d List.mem_cons_self))]

end Delivery

end RtspServer
