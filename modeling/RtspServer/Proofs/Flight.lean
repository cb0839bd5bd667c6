/-
RtspServer/Proofs/Flight.lean

What a step of a live hub can do, said once.  A step makes at most one write,
and what it does to the hub and to the picture on its way is one of five things
(`Live.Turn`).  Whatever these preserve holds in every state of a run.

If nothing comes in between, the steps of a picture amount to `Hub.feed`
(`Live.run_flight`).
-/
import RtspServer.Control.Flight
import RtspServer.Proofs.Continuity

namespace RtspServer

/-- A write of a picture on its way, and whether the transport has taken it. -/
inductive Sending where
  | report (taken : Bool)
  | data (handover : Handover) (taken : Bool)
  deriving DecidableEq, Repr

/-- The data packet that a transport has taken. -/
def Sending.written? : Sending → Option Handover
  | .data handover true => some handover
  | _ => none

/-! ### One leg -/

namespace Leg

/-- The write that a leg makes next, if it makes one. -/
def sending? (clock : UInt32) (wall : Rtcp.NtpTime) (l : Leg) (m : Media) : Option Sending :=
  if l.begun then
    l.packets.head?.map fun packet =>
      .data ⟨packet, l.delivery.stamped packet⟩
        (m.send l.delivery.transport .data (l.delivery.stamped packet)).isOk
  else if l.delivery.reportDue then
    some (.report
      (m.send l.delivery.transport .control (l.delivery.senderReport clock wall).write).isOk)
  else none

/-- What a leg that is not done can write, and what becomes of it. -/
inductive Step (l : Leg) : Option Sending → Leg → Prop
  /-- No report is due. -/
  | quiet (hbegun : l.begun = false) (hdue : l.delivery.reportDue = false) :
      Step l none { l with begun := true }
  | reported (hbegun : l.begun = false) (hdue : l.delivery.reportDue = true) :
      Step l (some (.report true))
        { l with delivery := { l.delivery with reportDue := false }, begun := true }
  | unreported (hbegun : l.begun = false) (hdue : l.delivery.reportDue = true) :
      Step l (some (.report false)) { l with begun := true }
  | taken {packet : Bytes} {rest : List Bytes} (hbegun : l.begun = true)
      (hfailed : l.delivery.failed = false) (hpackets : l.packets = packet :: rest) :
      Step l (some (.data ⟨packet, l.delivery.stamped packet⟩ true))
        { l with
          delivery := { l.delivery.count packet with sent := l.delivery.sent + 1 }
          packets := rest }
  | refused {packet : Bytes} {rest : List Bytes} (hbegun : l.begun = true)
      (hfailed : l.delivery.failed = false) (hpackets : l.packets = packet :: rest) :
      Step l (some (.data ⟨packet, l.delivery.stamped packet⟩ false))
        { l with delivery := { l.delivery.count packet with failed := true }, packets := rest }

theorem step_advance (clock : UInt32) (wall : Rtcp.NtpTime) {l : Leg} (hl : l.isDone = false)
    (m : Media) : l.Step (l.sending? clock wall m) (l.advance clock wall m).1 := by
  obtain ⟨d, begun, packets⟩ := l
  cases begun with
  | false =>
    cases hdue : d.reportDue with
    | false =>
      have hquiet : d.sendReport clock wall m = (d, m) := if_neg (by simp [hdue])
      simp only [sending?, advance, hdue, hquiet, Bool.false_eq_true, if_false]
      exact .quiet rfl hdue
    | true =>
      simp only [sending?, advance, Delivery.sendReport, hdue, Bool.false_eq_true, if_false,
        if_true]
      rcases m.send d.transport .control (d.senderReport clock wall).write with _ | _
      · exact .unreported rfl hdue
      · exact .reported rfl hdue
  | true =>
    -- a leg that has begun and is not done has a packet left, and has not failed
    obtain ⟨hfailed, packet, rest, rfl⟩ :
        d.failed = false ∧ ∃ packet rest, packets = packet :: rest := by
      rw [isDone, Bool.true_and, Bool.or_eq_false_iff] at hl
      exact ⟨hl.1, List.exists_cons_of_ne_nil (by simpa using hl.2)⟩
    simp only [sending?, advance, Delivery.sendPacket, hfailed, Bool.false_eq_true, if_false,
      if_true, List.head?_cons, Option.map_some]
    rcases m.send d.transport .data (d.stamped packet) with _ | _
    · exact .refused rfl hfailed rfl
    · exact .taken rfl hfailed rfl

/-- A leg stays with its connection, its transport and its source. -/
theorem Step.delivery {l l' : Leg} {x : Option Sending} (h : l.Step x l') :
    l'.delivery.conn = l.delivery.conn ∧ l'.delivery.transport = l.delivery.transport ∧
      l'.delivery.ssrc = l.delivery.ssrc := by
  cases h <;> exact ⟨rfl, rfl, rfl⟩

theorem Step.packets {l l' : Leg} {x : Option Sending} (h : l.Step x l') :
    ∀ packet ∈ l'.packets, packet ∈ l.packets := by
  cases h with
  | taken _ _ hpackets | refused _ _ hpackets =>
    exact fun packet hp => hpackets ▸ List.mem_cons_of_mem _ hp
  | _ => exact fun _ hp => hp

end Leg

/-! ### The leg that is next -/

namespace Flight

/-- The leg that makes the next write. -/
def next? (legs : List Leg) : Option Leg := legs.find? (!·.isDone)

theorem advance_of_done {legs : List Leg} (hdone : ∀ l ∈ legs, l.isDone = true) (clock : UInt32)
    (wall : Rtcp.NtpTime) (m : Media) : advance clock wall legs m = (legs, m) := by
  induction legs with
  | nil => rfl
  | cons l rest ih =>
    rw [advance, if_pos (hdone l List.mem_cons_self),
      ih fun x hx => hdone x (List.mem_cons_of_mem _ hx)]

/-- Legs that are done are passed over. -/
theorem advance_append {done : List Leg} (hdone : ∀ l ∈ done, l.isDone = true) {l : Leg}
    (hl : l.isDone = false) (rest : List Leg) (clock : UInt32) (wall : Rtcp.NtpTime) (m : Media) :
    next? (done ++ l :: rest) = some l ∧
      advance clock wall (done ++ l :: rest) m =
        (done ++ (l.advance clock wall m).1 :: rest, (l.advance clock wall m).2) := by
  induction done with
  | nil => simp [next?, advance, hl]
  | cons d done ih =>
    obtain ⟨hnext, hadvance⟩ := ih fun x hx => hdone x (List.mem_cons_of_mem _ hx)
    have hd := hdone d List.mem_cons_self
    rw [next?] at hnext
    constructor
    · simpa [next?, hd] using hnext
    · rw [List.cons_append, advance, if_pos hd, hadvance]
      rfl

/-- All legs are done, or one is next and those before it are done. -/
theorem next_cases (legs : List Leg) :
    (∀ l ∈ legs, l.isDone = true) ∨
      ∃ done l rest, legs = done ++ l :: rest ∧ (∀ x ∈ done, x.isDone = true) ∧
        l.isDone = false := by
  induction legs with
  | nil => exact Or.inl fun _ hl => absurd hl List.not_mem_nil
  | cons l rest ih =>
    cases hl : l.isDone with
    | false => exact Or.inr ⟨[], l, rest, rfl, fun _ hx => absurd hx List.not_mem_nil, hl⟩
    | true =>
      rcases ih with hdone | ⟨done, x, post, rfl, hdone, hx⟩
      · exact Or.inl (List.forall_mem_cons.mpr ⟨hl, hdone⟩)
      · exact Or.inr ⟨l :: done, x, post, rfl, List.forall_mem_cons.mpr ⟨hl, hdone⟩, hx⟩

end Flight

/-! ### Steps of a live hub -/

namespace Live

/-- The write that a step makes to a connection, if it makes one. -/
def sendingTo? (s : Live) (conn : ConnId) : Move → Option Sending
  | .write wall => do
    let f ← s.flight
    let l ← Flight.next? f.legs
    if l.delivery.conn = conn then l.sending? f.clock wall s.hub.media else none
  | _ => none

/-- The writes that are made to a connection while steps are made one after the other. -/
def sendings (s : Live) (conn : ConnId) : List Move → List Sending
  | [] => []
  | mv :: rest => (s.sendingTo? conn mv).toList ++ (s.step mv).sendings conn rest

theorem sendings_append (s : Live) (conn : ConnId) (before after : List Move) :
    s.sendings conn (before ++ after) =
      s.sendings conn before ++ (s.run before).sendings conn after := by
  induction before generalizing s with
  | nil => rfl
  | cons mv rest ih =>
    rw [List.cons_append, sendings, ih, sendings, List.append_assoc]
    rfl

/-- The connections are kept apart, in the hub and on the way, and every packet begins with a whole
header. -/
structure Sound (s : Live) : Prop extends s.hub.Numbered where
  conns : ∀ f ∈ s.flight, (f.legs.map (·.delivery.conn)).Nodup
  boarded : ∀ f ∈ s.flight, ∀ l ∈ f.legs, l.delivery.conn < s.hub.nextConn
  headers : ∀ f ∈ s.flight, ∀ l ∈ f.legs, ∀ packet ∈ l.packets,
    ∃ header, Rtp.Header.read? packet = some header

/-- A hub whose media have got as far as `m` while a picture is on its way. -/
def airborne (h : Hub) (clock : UInt32) (legs : List Leg) (m : Media) : Live :=
  ⟨{ h with media := m }, some ⟨clock, legs⟩⟩

/-- What a step can do, and what it writes to a connection. -/
inductive Turn (conn : ConnId) (s : Live) : Move → Option Sending → Live → Prop
  /-- Nothing. -/
  | idle (mv : Move) : Turn conn s mv none s
  /-- Something that leaves the counters alone. -/
  | operation (o : Operation) (hquiet : o.isQuiet = true)
      (hchanges : Hub.Changes Session.Untouched s.hub (s.hub.perform o).2) :
      Turn conn s (.operation o) none { s with hub := (s.hub.perform o).2 }
  /-- A picture departs to those who play. -/
  | depart (picture : Picture) {order : List Delivery} {packets : List Bytes}
      (hnone : s.flight = none) (horder : order.Perm s.hub.deliveries)
      (hcut : s.hub.packetizer.packets picture = .ok packets) :
      Turn conn s (.depart picture order) none
        { s with flight := some {
            clock := Rtp.videoClock picture.time
            legs := order.map (·.leg packets) } }
  /-- The next leg is written. -/
  | write (wall : Rtcp.NtpTime) {f : Flight} {done : List Leg} {l l' : Leg} {rest : List Leg}
      {x : Option Sending} {m : Media} (hflight : s.flight = some f)
      (hlegs : f.legs = done ++ l :: rest) (hnext : l.isDone = false) (hstep : l.Step x l') :
      Turn conn s (.write wall) (if l.delivery.conn = conn then x else none)
        (airborne s.hub f.clock (done ++ l' :: rest) m)
  /-- A picture arrives. -/
  | arrive {f : Flight} (hflight : s.flight = some f) (hdone : ∀ l ∈ f.legs, l.isDone = true) :
      Turn conn s .arrive none { hub := (s.hub.conclude (f.legs.map (·.delivery))).2 }

/-- A write goes to the leg that is next, or there is nothing to write. -/
theorem write_cases (s : Live) (wall : Rtcp.NtpTime) :
    (s.step (.write wall) = s ∧ ∀ f, s.flight = some f → Flight.next? f.legs = none) ∨
      ∃ f done l rest, s.flight = some f ∧ f.legs = done ++ l :: rest ∧
        Flight.next? f.legs = some l ∧ l.isDone = false ∧
        s.step (.write wall) =
          airborne s.hub f.clock (done ++ (l.advance f.clock wall s.hub.media).1 :: rest)
            (l.advance f.clock wall s.hub.media).2 := by
  show (s.write wall = s ∧ _) ∨ ∃ f done l rest, _ ∧ _ ∧ _ ∧ _ ∧ s.write wall = _
  rcases hf : s.flight with - | f
  · rw [write, hf]
    exact Or.inl ⟨rfl, nofun⟩
  rcases Flight.next_cases f.legs with hdone | ⟨done, l, rest, hlegs, hdone, hl⟩
  · refine Or.inl ⟨?_, ?_⟩
    · rw [write, hf]
      simp only [Flight.advance_of_done hdone]
      rw [← hf]
    · rintro f ⟨⟩
      exact List.find?_eq_none.mpr fun l hl => by simp [hdone l hl]
  · obtain ⟨hnext, hadvance⟩ :=
      Flight.advance_append hdone hl rest f.clock wall s.hub.media
    refine Or.inr ⟨f, done, l, rest, rfl, hlegs, hlegs ▸ hnext, hl, ?_⟩
    rw [write, hf]
    simp only [hlegs, hadvance, airborne]

/-- **Every step is one of the five.** -/
theorem turn_step {s : Live} (hn : s.hub.Numbered) (conn : ConnId) (mv : Move) :
    Turn conn s mv (s.sendingTo? conn mv) (s.step mv) := by
  cases mv with
  | operation o =>
    by_cases ho : o.isQuiet = true
    · rw [step, if_pos ho]
      exact .operation o ho (Hub.changes_perform_of_quiet hn ho)
    · rw [step, if_neg ho]
      exact .idle _
  | depart picture order =>
    show Turn conn s _ none (s.depart picture order)
    unfold depart
    split
    · next packets hnone hcut =>
      split
      · next horder => exact .depart picture hnone horder.2 hcut
      · exact .idle _
    · exact .idle _
  | write wall =>
    rcases s.write_cases wall with ⟨hsame, hnext⟩ | ⟨f, done, l, rest, hf, hlegs, hnext, hl, hwrite⟩
    · have hnone : s.sendingTo? conn (.write wall) = none := by
        rw [sendingTo?]
        rcases hf : s.flight with - | f
        · rfl
        · simp only [bind, Option.bind, hnext f hf]
      rw [hsame, hnone]
      exact .idle _
    · rw [hwrite, sendingTo?, hf]
      simp only [bind, Option.bind, hnext]
      exact .write wall hf hlegs hl (l.step_advance f.clock wall hl s.hub.media)
  | arrive =>
    show Turn conn s _ none s.arrive
    unfold arrive
    split
    · next f hf =>
      split
      · next hdone => exact .arrive hf (List.all_eq_true.mp hdone)
      · exact .idle _
    · exact .idle _

/-- When a leg is written to, the others stay, and none of them is to its connection. -/
theorem Sound.eq_or_mem {s : Live} (hs : s.Sound) {f : Flight} (hflight : s.flight = some f)
    {done rest : List Leg} {l l' : Leg} (hlegs : f.legs = done ++ l :: rest) {y : Leg}
    (hy : y ∈ done ++ l' :: rest) :
    y = l' ∨ (y ∈ f.legs ∧ y.delivery.conn ≠ l.delivery.conn) := by
  have hconns := hs.conns f hflight
  rw [hlegs, List.map_append, List.map_cons, List.nodup_middle, List.nodup_cons] at hconns
  rw [hlegs]
  rcases List.mem_append.mp hy with hy | hy
  · refine Or.inr ⟨List.mem_append_left _ hy, fun he => hconns.1 ?_⟩
    exact List.mem_append_left _ (List.mem_map.mpr ⟨y, hy, he⟩)
  rcases List.mem_cons.mp hy with rfl | hy
  · exact Or.inl rfl
  · refine Or.inr ⟨List.mem_append_right _ (List.mem_cons_of_mem _ hy), fun he => hconns.1 ?_⟩
    exact List.mem_append_right _ (List.mem_map.mpr ⟨y, hy, he⟩)

theorem Sound.step {s : Live} (hs : s.Sound) (mv : Move) : (s.step mv).Sound := by
  have hturn := turn_step hs.toNumbered 0 mv
  generalize s.sendingTo? 0 mv = x, s.step mv = s' at hturn
  cases hturn with
  | idle => exact hs
  | operation o hquiet hchanges =>
    exact ⟨hs.toNumbered.changes (hchanges.mono fun _ _ hu => hu.toRevised), hs.conns,
      fun f hf l hl => Nat.lt_of_lt_of_le (hs.boarded f hf l hl) (Hub.Changes.nextConn_le hchanges),
      hs.headers⟩
  | depart picture hnone horder hcut =>
    refine ⟨hs.toNumbered, ?_, ?_, ?_⟩
    · rintro f ⟨⟩
      rw [List.map_map]
      exact (horder.map _).symm.nodup hs.toNumbered.nodup_deliveries
    · rintro f ⟨⟩ l hl
      obtain ⟨d, hd, rfl⟩ := List.mem_map.mp hl
      obtain ⟨t, ht, hof⟩ := Hub.mem_deliveries.mp (horder.subset hd)
      exact (Delivery.of_ofSession? hof).1 ▸ hs.below t ht
    · rintro f ⟨⟩ l hl packet hp
      obtain ⟨d, -, rfl⟩ := List.mem_map.mp hl
      exact Jpeg.Packetizer.read?_packets hcut packet hp
  | @write wall f done l l' rest x m hflight hlegs hnext hstep =>
    have hconns := hs.conns f hflight
    have hmem : l ∈ f.legs := hlegs ▸ List.mem_append_right _ List.mem_cons_self
    rw [hlegs] at hconns
    refine ⟨⟨hs.nodup, hs.below⟩, ?_, ?_, ?_⟩
    · rintro f ⟨⟩
      simpa only [List.map_append, List.map_cons, hstep.delivery.1] using hconns
    · rintro f' ⟨⟩ y hy
      rcases hs.eq_or_mem hflight hlegs hy with rfl | ⟨hy, -⟩
      · exact hstep.delivery.1 ▸ hs.boarded f hflight l hmem
      · exact hs.boarded f hflight y hy
    · rintro f' ⟨⟩ y hy packet hp
      rcases hs.eq_or_mem hflight hlegs hy with rfl | ⟨hy, -⟩
      · exact hs.headers f hflight l hmem packet (hstep.packets packet hp)
      · exact hs.headers f hflight y hy packet hp
  | arrive hflight hdone =>
    have hland := Hub.changes_conclude s.hub Session.revised_settle
    exact ⟨hs.toNumbered.changes (hland _), nofun, nofun, nofun⟩

theorem Sound.run {s : Live} (hs : s.Sound) (moves : List Move) : (s.run moves).Sound := by
  induction moves generalizing s with
  | nil => exact hs
  | cons mv rest ih => exact ih (hs.step mv)

theorem run_append (s : Live) (before after : List Move) :
    s.run (before ++ after) = (s.run before).run after :=
  List.foldl_append

/-! ### With nothing in between -/

section Uninterrupted

variable (h : Hub) (clock : UInt32) (wall : Rtcp.NtpTime)

theorem step_airborne {done : List Leg} (hdone : ∀ l ∈ done, l.isDone = true) {l : Leg}
    (hl : l.isDone = false) (rest : List Leg) (m : Media) :
    (airborne h clock (done ++ l :: rest) m).step (.write wall) =
      airborne h clock (done ++ (l.advance clock wall m).1 :: rest) (l.advance clock wall m).2 := by
  simp only [step, write, airborne, (Flight.advance_append hdone hl rest clock wall m).2]

/-- Write by write all packets of a leg go out. -/
theorem run_packets {done : List Leg} (hdone : ∀ l ∈ done, l.isDone = true) (rest : List Leg)
    (packets : List Bytes) (d : Delivery) (m : Media) :
    ∃ n l', l'.isDone = true ∧
      l'.delivery = (packets.foldl Delivery.sendPacket (d, m)).1 ∧
      (airborne h clock (done ++ ⟨d, true, packets⟩ :: rest) m).run
          (List.replicate n (.write wall)) =
        airborne h clock (done ++ l' :: rest) (packets.foldl Delivery.sendPacket (d, m)).2 := by
  induction packets generalizing d m with
  | nil => exact ⟨0, ⟨d, true, []⟩, by simp [Leg.isDone], rfl, rfl⟩
  | cons packet packets ih =>
    cases hf : d.failed with
    | true =>
      -- after a failure there is nothing left to send
      rw [Delivery.foldl_sendPacket_of_failed hf]
      exact ⟨0, ⟨d, true, packet :: packets⟩, by simp [Leg.isDone, hf], rfl, rfl⟩
    | false =>
      obtain ⟨n, l', hl', hdelivery, hrun⟩ :=
        ih (Delivery.sendPacket (d, m) packet).1 (Delivery.sendPacket (d, m) packet).2
      have hnext : Leg.isDone ⟨d, true, packet :: packets⟩ = false := by simp [Leg.isDone, hf]
      refine ⟨n + 1, l', hl', hdelivery, ?_⟩
      rw [List.replicate_succ]
      show Live.run (Live.step _ _) _ = _
      rw [step_airborne h clock wall hdone hnext]
      exact hrun

/-- Write by write a whole leg goes out. -/
theorem run_leg {done : List Leg} (hdone : ∀ l ∈ done, l.isDone = true) (rest : List Leg)
    (packets : List Bytes) (d : Delivery) (m : Media) :
    ∃ n l', l'.isDone = true ∧ l'.delivery = (d.send clock wall packets m).1 ∧
      (airborne h clock (done ++ ⟨d, false, packets⟩ :: rest) m).run
          (List.replicate n (.write wall)) =
        airborne h clock (done ++ l' :: rest) (d.send clock wall packets m).2 := by
  obtain ⟨n, l', hl', hdelivery, hrun⟩ := run_packets h clock wall hdone rest packets
    (d.sendReport clock wall m).1 (d.sendReport clock wall m).2
  have hnext : Leg.isDone ⟨d, false, packets⟩ = false := rfl
  refine ⟨n + 1, l', hl', hdelivery, ?_⟩
  rw [List.replicate_succ]
  show Live.run (Live.step _ _) _ = _
  rw [step_airborne h clock wall hdone hnext]
  exact hrun

/-- Write by write all legs go out. -/
theorem run_legs {done : List Leg} (hdone : ∀ l ∈ done, l.isDone = true) (packets : List Bytes)
    (deliveries : List Delivery) (m : Media) :
    ∃ n legs, (∀ l ∈ done ++ legs, l.isDone = true) ∧
      legs.map (·.delivery) = (Delivery.sendAll clock wall packets deliveries m).1 ∧
      (airborne h clock (done ++ deliveries.map (·.leg packets)) m).run
          (List.replicate n (.write wall)) =
        airborne h clock (done ++ legs) (Delivery.sendAll clock wall packets deliveries m).2 := by
  induction deliveries generalizing done m with
  | nil => exact ⟨0, [], by simpa using hdone, rfl, rfl⟩
  | cons d deliveries ih =>
    obtain ⟨n, l', hl', hdelivery, hrun⟩ := run_leg h clock wall hdone
      (deliveries.map (·.leg packets)) packets d m
    have hdone' : ∀ l ∈ done ++ [l'], l.isDone = true :=
      List.forall_mem_append.mpr ⟨hdone, List.forall_mem_singleton.mpr hl'⟩
    obtain ⟨k, legs, hlegs, hdeliveries, hrest⟩ := ih hdone' (d.send clock wall packets m).2
    rw [List.append_assoc] at hlegs
    refine ⟨n + k, l' :: legs, hlegs, ?_, ?_⟩
    · rw [List.map_cons, hdelivery, hdeliveries]
      rfl
    · rw [List.replicate_add, run_append, List.map_cons]
      show Live.run (Live.run (airborne h clock (done ++ ⟨d, false, packets⟩ :: _) m) _) _ = _
      rw [hrun]
      rw [List.append_assoc, List.append_assoc] at hrest
      exact hrest

/-- **Steps with nothing in between are a feed.**  If a picture departs, is written as often as
there is something to write and arrives, the hub is where `Hub.feed` takes it. -/
theorem run_flight (picture : Picture) :
    ∃ n, Live.run { hub := h }
        (.depart picture h.deliveries :: (List.replicate n (.write wall) ++ [.arrive])) =
      { hub := (h.feed picture wall).2 } := by
  show ∃ n, Live.run (Live.depart { hub := h } picture h.deliveries) _ = _
  rcases hp : h.packetizer.packets picture with fault | packets
  · refine ⟨0, ?_⟩
    rw [Hub.feed_eq_self (Or.inr ⟨fault, hp⟩)]
    simp only [depart, hp]
    rfl
  by_cases hd : h.deliveries = []
  · refine ⟨0, ?_⟩
    rw [Hub.feed_eq_self (Or.inl hd)]
    simp only [depart, hp, hd, ne_eq, not_true_eq_false, false_and, if_false]
    rfl
  have hnone : ∀ l ∈ ([] : List Leg), l.isDone = true := fun _ hl => absurd hl List.not_mem_nil
  obtain ⟨n, legs, hdone, hdeliveries, hrun⟩ :=
    run_legs h (Rtp.videoClock picture.time) wall hnone packets h.deliveries h.media
  have hdepart : Live.depart { hub := h } picture h.deliveries =
      airborne h (Rtp.videoClock picture.time) (h.deliveries.map (·.leg packets)) h.media := by
    simp only [depart, hp, if_pos (And.intro hd (List.Perm.refl h.deliveries))]
    rfl
  simp only [List.nil_append] at hdone hrun
  refine ⟨n, ?_⟩
  rw [hdepart, run_append, hrun, Hub.feed_eq hd hp]
  simp only [run, List.foldl_cons, List.foldl_nil, step, arrive, airborne, Flight.isDone,
    if_pos (List.all_eq_true.mpr hdone), hdeliveries]

end Uninterrupted

end Live

end RtspServer
