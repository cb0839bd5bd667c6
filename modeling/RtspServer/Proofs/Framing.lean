/-
RtspServer/Proofs/Framing.lean

`$` frames on a stream.  Frames that are written one after the other are read one
after the other, and what follows them is left; and what is read as a frame is
what would be written for it (`Frame.read_eq_ok_iff`).  So both ends agree on
where a frame ends, whatever its payload looks like.

An interleaved transport writes every packet it takes as one frame, on the
channel of its lane, and nothing else.  It takes those packets that fit into a
frame and are sent before it is stopped, as many as the outlet has room for
(`Media.foldl_use_running`); after that it takes none (`Media.foldl_use_stopped`).
So what is on the outlet reads back as the packets that were taken.
-/
import RtspServer.Proofs.Pipeline

namespace RtspServer

/-! ### Frames one after the other -/

namespace Frame

/-- The octets of some frames, one after the other. -/
def writeAll : List Frame → Except Fault Bytes
  | [] => .ok []
  | f :: rest => do
    let octets ← f.write
    let others ← writeAll rest
    return octets ++ others

/-- Take so many frames off the front of a stream. -/
def readMany : Nat → Bytes → Except ReadFault (List Frame × Bytes)
  | 0, input => .ok ([], input)
  | n + 1, input => do
    let (f, rest) ← read input
    let (others, rest) ← readMany n rest
    return (f :: others, rest)

theorem write_of_le {f : Frame} (hf : f.payload.length ≤ 65535) :
    f.write = .ok (opening :: f.channel :: octets16 (UInt16.ofNat f.payload.length) ++ f.payload) :=
  if_pos (Nat.lt_succ_of_le hf)

theorem write_of_lt {f : Frame} (hf : 65535 < f.payload.length) :
    f.write = .error (.frameTooLarge f.payload.length) :=
  if_neg (Nat.not_lt.mpr hf)

/-- **What is read as a frame is what is written for it**, in front of what is left. -/
theorem read_eq_ok_iff {input rest : Bytes} {f : Frame} :
    read input = .ok (f, rest) ↔ ∃ octets, f.write = .ok octets ∧ input = octets ++ rest := by
  constructor
  · intro h
    unfold read at h
    split at h
    · next first channel hi lo behind =>
      split at h
      · cases h
      next hopening =>
      simp only at h
      split at h
      · next hsize =>
        obtain ⟨rfl, rfl⟩ := Prod.mk.inj (Except.ok.inj h)
        obtain rfl := not_not.mp hopening
        refine ⟨_, write_of_le ?_, ?_⟩
        · rw [hsize]
          exact Nat.le_of_lt_succ (word16 hi lo).toNat_lt
        · -- the length field is that of the payload
          rw [hsize, UInt16.ofNat_toNat, octets16_word16]
          simp
      · cases h
    · cases h
  · rintro ⟨octets, hwrite, rfl⟩
    exact read_append hwrite rest

theorem writeAll_cons {f : Frame} {rest : List Frame} {octets : Bytes} :
    writeAll (f :: rest) = .ok octets ↔
      ∃ first others, f.write = .ok first ∧ writeAll rest = .ok others ∧
        octets = first ++ others := by
  rw [writeAll]
  rcases f.write with fault | first
  · simp [bind, Except.bind]
  · rcases writeAll rest with fault | others
    · simp [bind, Except.bind]
    · simp [bind, Except.bind, pure, Except.pure, eq_comm]

theorem exists_writeAll {frames : List Frame} (h : ∀ f ∈ frames, f.payload.length ≤ 65535) :
    ∃ octets, writeAll frames = .ok octets := by
  induction frames with
  | nil => exact ⟨[], rfl⟩
  | cons f rest ih =>
    obtain ⟨others, hothers⟩ := ih fun g hg => h g (List.mem_cons_of_mem _ hg)
    exact ⟨_, writeAll_cons.mpr
      ⟨_, others, write_of_le (h f List.mem_cons_self), hothers, rfl⟩⟩

/-- **Frames are read as they were written**, and what follows them is left. -/
theorem readMany_append {frames : List Frame} {octets : Bytes}
    (h : writeAll frames = .ok octets) (tail : Bytes) :
    readMany frames.length (octets ++ tail) = .ok (frames, tail) := by
  induction frames generalizing octets with
  | nil =>
    obtain rfl := Except.ok.inj h
    rfl
  | cons f rest ih =>
    obtain ⟨first, others, hfirst, hothers, rfl⟩ := writeAll_cons.mp h
    rw [List.append_assoc, List.length_cons, readMany, read_append hfirst]
    simp only [bind, Except.bind, ih hothers, pure, Except.pure]

end Frame

/-! ### A transport and its outlet -/

/-- What can be done with a transport as far as the packets go that it carries. -/
inductive Usage where
  | start
  | stop
  /-- A packet is sent on a lane. -/
  | send (lane : Lane) (packet : Bytes)
  deriving DecidableEq, Repr

/-- The packets that are sent before the first stop and fit into a frame. -/
def Usage.sendable : List Usage → List (Lane × Bytes)
  | [] => []
  | .start :: rest => sendable rest
  | .stop :: _ => []
  | .send lane packet :: rest =>
    if packet.length ≤ 65535 then (lane, packet) :: sendable rest else sendable rest

/-- How many writes an outlet takes from now on; any number if absent. -/
def Outlet.room (o : Outlet) : Option Nat := if o.shut then some 0 else o.budget

/-- The first elements of a list, as many as there is room for. -/
def upTo {α : Type} : Option Nat → List α → List α
  | none, l => l
  | some n, l => l.take n

@[simp] theorem upTo_zero {α : Type} (l : List α) : upTo (some 0) l = [] := rfl

@[simp] theorem upTo_nil {α : Type} (room : Option Nat) : upTo room ([] : List α) = [] := by
  cases room with
  | none => rfl
  | some n => exact List.take_nil

/-- The frame that carries a packet on its channel. -/
def ChannelPair.frame (c : ChannelPair) (packet : Lane × Bytes) : Frame :=
  ⟨c.lane packet.1, packet.2⟩

namespace Media

/-- Use a transport once.  The packets that it has taken so far are kept beside the media. -/
def use (id : TransportId) (state : List (Lane × Bytes) × Media) :
    Usage → List (Lane × Bytes) × Media
  | .start => (state.1, (state.2.start id).toOption.getD state.2)
  | .stop => (state.1, state.2.stop id)
  | .send lane packet =>
    match state.2.send id lane packet with
    | .ok m => (state.1 ++ [(lane, packet)], m)
    | .error _ => state

/-- Use a transport again and again, when it has taken nothing yet. -/
def useAll (m : Media) (id : TransportId) (usages : List Usage) : List (Lane × Bytes) × Media :=
  usages.foldl (use id) ([], m)

/-- The octets on an outlet. -/
def octetsOn (m : Media) (outlet : OutletId) : Bytes := (m.takeWritten outlet).1.flatten

/-- What a new interleaved transport on a new outlet has taken when it has been used in some ways,
and the octets that are on the outlet then. -/
def carry (m : Media) (o : Outlet) (c : ChannelPair) (usages : List Usage) :
    List (Lane × Bytes) × Bytes :=
  let added := m.addOutlet o
  let opened := added.2.openInterleaved added.1 c
  let used := opened.2.useAll opened.1 usages
  (used.1, used.2.octetsOn added.1)

end Media

/-- An outlet takes a message if it has room for it, and has less room then. -/
theorem Outlet.write_cases (o : Outlet) (message : Bytes) :
    (o.room = some 0 ∧ ∃ fault, o.write message = .error fault) ∨
      ∃ o', o.write message = .ok o' ∧ o'.written = message :: o.written ∧
        ∀ {α : Type} (a : α) (l : List α), upTo o.room (a :: l) = a :: upTo o'.room l := by
  obtain ⟨budget, shut, written⟩ := o
  cases shut with
  | true => exact .inl ⟨rfl, _, rfl⟩
  | false =>
    rcases budget with - | - | n
    · exact .inr ⟨_, rfl, rfl, fun a l => rfl⟩
    · exact .inl ⟨rfl, _, rfl⟩
    · exact .inr ⟨_, rfl, rfl, fun a l => rfl⟩

namespace Media

/-- A packet that does not fit into a frame is refused. -/
theorem send_of_lt {m : Media} {id : TransportId} {t : Transport} {outlet : OutletId}
    {c : ChannelPair} (ht : m.transports[id]? = some t) (hc : t.carrier = .interleaved outlet c)
    (lane : Lane) {packet : Bytes} (hsize : 65535 < packet.length) :
    m.send id lane packet =
      .error (if t.stopped then .stopped else .frameTooLarge packet.length) := by
  rw [send, ht]
  simp only [hc]
  split
  · rfl
  · rw [Frame.write_of_lt (f := ⟨c.lane lane, packet⟩) hsize]
    rfl

/-- What is refused changes nothing. -/
theorem use_send_of_error {m : Media} {id : TransportId} {lane : Lane} {packet : Bytes}
    {fault : Fault} (h : m.send id lane packet = .error fault) (taken : List (Lane × Bytes)) :
    use id (taken, m) (.send lane packet) = (taken, m) := by
  simp only [use, h]

/-- An interleaved transport and its outlet, and whether the transport has been stopped. -/
structure Wired (id : TransportId) (outlet : OutletId) (c : ChannelPair) (m : Media) (o : Outlet)
    (stopped : Bool) : Prop where
  transport : ∃ t, m.transports[id]? = some t ∧ t.carrier = .interleaved outlet c ∧
    t.stopped = stopped
  outlet : m.outlets[outlet]? = some o

namespace Wired

variable {id : TransportId} {outlet : OutletId} {c : ChannelPair} {m : Media} {o : Outlet}
  {stopped : Bool}

/-- A change of the transport that leaves its carrier alone. -/
theorem updateTransport (hw : Wired id outlet c m o stopped) {f : Transport → Transport}
    {after : Bool} (hf : ∀ t, (f t).carrier = t.carrier)
    (hstopped : ∀ t, t.stopped = stopped → (f t).stopped = after) :
    Wired id outlet c (m.updateTransport id f) o after := by
  obtain ⟨t, ht, hc, hs⟩ := hw.transport
  refine ⟨⟨f t, ?_, (hf t).trans hc, hstopped t hs⟩, hw.outlet⟩
  rw [getElem?_updateTransport, ht, Option.map_some, if_pos rfl]

theorem start (hw : Wired id outlet c m o stopped) :
    Wired id outlet c ((m.start id).toOption.getD m) o stopped := by
  obtain ⟨t, ht, -⟩ := hw.transport
  simp only [Media.start, ht]
  split
  · exact hw
  · exact hw.updateTransport (fun _ => rfl) fun _ h => h

theorem stop (hw : Wired id outlet c m o stopped) : Wired id outlet c (m.stop id) o true :=
  hw.updateTransport (fun _ => rfl) fun _ _ => rfl

/-- A packet is sent as one frame to the outlet of a transport that has not been stopped. -/
theorem send_eq (hw : Wired id outlet c m o stopped) (lane : Lane) (packet : Bytes) :
    m.send id lane packet =
      if stopped then .error .stopped
      else (c.frame (lane, packet)).write.bind fun octets => (o.write octets).map fun o' =>
        (m.updateOutlet outlet fun _ => o').noteCarried id lane packet := by
  obtain ⟨t, ht, hc, rfl⟩ := hw.transport
  rw [send, ht]
  simp only [hc]
  split
  · rfl
  · simp only [writeOutlet, hw.outlet, bind, Except.bind, ChannelPair.frame]
    rcases Frame.write ⟨c.lane lane, packet⟩ with fault | octets
    · rfl
    · rcases h : o.write octets with fault | o'
      · simp [h, Except.map]
      · simp [h, Except.map, pure, Except.pure]

/-- The transport and the outlet after a frame has been written. -/
theorem written (hw : Wired id outlet c m o stopped) (o' : Outlet) (lane : Lane)
    (packet : Bytes) :
    Wired id outlet c ((m.updateOutlet outlet fun _ => o').noteCarried id lane packet) o'
      stopped := by
  have hupdated : Wired id outlet c (m.updateOutlet outlet fun _ => o') o' stopped :=
    ⟨hw.transport, getElem?_updateOutlet hw.outlet _⟩
  exact hupdated.updateTransport (fun _ => rfl) fun _ h => h

/-- **Nothing is taken after a stop**, and nothing is written. -/
theorem foldl_use_stopped (hw : Wired id outlet c m o true) (taken : List (Lane × Bytes))
    (usages : List Usage) :
    ∃ m', usages.foldl (use id) (taken, m) = (taken, m') ∧ Wired id outlet c m' o true := by
  induction usages generalizing m with
  | nil => exact ⟨m, rfl, hw⟩
  | cons usage rest ih =>
    cases usage with
    | start => exact ih hw.start
    | stop => exact ih hw.stop
    | send lane packet =>
      have hsend : m.send id lane packet = .error .stopped := hw.send_eq lane packet
      rw [List.foldl_cons, use_send_of_error hsend]
      exact ih hw

/-- **What is taken is what is written**: the packets that fit into a frame and are sent before the
first stop, as many as the outlet has room for, each as the frame on its channel. -/
theorem foldl_use_running (hw : Wired id outlet c m o false) (taken : List (Lane × Bytes))
    (usages : List Usage) :
    let more := upTo o.room (Usage.sendable usages)
    ∃ m' o' octets, usages.foldl (use id) (taken, m) = (taken ++ more, m') ∧
      m'.outlets[outlet]? = some o' ∧ Frame.writeAll (more.map c.frame) = .ok octets ∧
      o'.written.reverse.flatten = o.written.reverse.flatten ++ octets := by
  induction usages generalizing m o taken with
  | nil =>
    simp only [Usage.sendable, upTo_nil, List.append_nil]
    exact ⟨m, o, [], rfl, hw.outlet, rfl, by simp⟩
  | cons usage rest ih =>
    cases usage with
    | start => exact ih hw.start taken
    | stop =>
      obtain ⟨m', hrest, hw'⟩ := hw.stop.foldl_use_stopped taken rest
      simp only [Usage.sendable, upTo_nil, List.append_nil]
      exact ⟨m', o, [], hrest, hw'.outlet, rfl, by simp⟩
    | send lane packet =>
      by_cases hsize : packet.length ≤ 65535
      · have hsend := hw.send_eq lane packet
        have hframe := Frame.write_of_le (f := c.frame (lane, packet)) hsize
        rw [if_neg Bool.false_ne_true, hframe] at hsend
        simp only [Usage.sendable, if_pos hsize]
        generalize Frame.opening :: _ ++ _ = first at hframe hsend
        rcases o.write_cases first with ⟨hroom, fault, hwrite⟩ | ⟨o', hwrite, hwritten, hroom⟩
        · -- there is no room left, and none comes later
          obtain ⟨m', o', octets, hrest, hafter⟩ := ih hw taken
          rw [Except.bind, hwrite] at hsend
          rw [hroom, upTo_zero] at hrest hafter ⊢
          exact ⟨m', o', octets, by rwa [List.foldl_cons, use_send_of_error hsend], hafter⟩
        · rw [Except.bind, hwrite] at hsend
          have huse : use id (taken, m) (.send lane packet) = (taken ++ [(lane, packet)],
              (m.updateOutlet outlet fun _ => o').noteCarried id lane packet) := by
            simp only [use, hsend]
            rfl
          obtain ⟨m'', o'', octets, hrest, houtlet, hoctets, hall⟩ :=
            ih (hw.written o' lane packet) (taken ++ [(lane, packet)])
          refine ⟨m'', o'', first ++ octets, ?_, houtlet, ?_, ?_⟩
          · rw [List.foldl_cons, huse, hrest, hroom, List.append_assoc]
            rfl
          · rw [hroom, List.map_cons]
            exact Frame.writeAll_cons.mpr ⟨first, octets, hframe, hoctets, rfl⟩
          · rw [hall, hwritten]
            simp
      · -- it does not fit into a frame
        obtain ⟨t, ht, hc, -⟩ := hw.transport
        have hrefused := send_of_lt ht hc lane (Nat.lt_of_not_le hsize)
        simp only [Usage.sendable, if_neg hsize]
        rw [List.foldl_cons, use_send_of_error hrefused]
        exact ih hw taken

end Wired

theorem wired_openInterleaved (m : Media) (o : Outlet) (c : ChannelPair) :
    let added := m.addOutlet o
    let opened := added.2.openInterleaved added.1 c
    Wired opened.1 added.1 c opened.2 o false :=
  ⟨⟨_, List.getElem?_concat_length, rfl, rfl⟩, List.getElem?_concat_length⟩

/-- **What is on the outlet**: what was there before, and one frame for each packet that was
taken. -/
theorem carry_eq (m : Media) (o : Outlet) (c : ChannelPair) (usages : List Usage) :
    let taken := upTo o.room (Usage.sendable usages)
    ∃ octets, Frame.writeAll (taken.map c.frame) = .ok octets ∧
      m.carry o c usages = (taken, o.written.reverse.flatten ++ octets) := by
  intro taken
  obtain ⟨m', o', octets, hused, houtlet, hoctets, hall⟩ :=
    (m.wired_openInterleaved o c).foldl_use_running [] usages
  refine ⟨octets, hoctets, ?_⟩
  rw [carry, useAll, hused, octetsOn, takeWritten, houtlet, ← hall]
  rfl

theorem sendable_append_stop (before later : List Usage) :
    Usage.sendable (before ++ .stop :: later) = Usage.sendable before := by
  induction before with
  | nil => rfl
  | cons usage rest ih =>
    cases usage with
    | start => exact ih
    | stop => rfl
    | send lane packet =>
      rw [List.cons_append, Usage.sendable, Usage.sendable, ih]

end Media

/-- **Frames on a stream.** Frames are read as they were written, one after the other, and leave
what follows; what is read as a frame is what would be written for it; and a payload that is too
long for a frame is refused, and nothing is written.  What an interleaved transport has written to
an outlet of its own reads back as the packets that it took, each on the channel of its lane.  These
are the packets that fit into a frame and are sent before the first stop, as many as the outlet
takes; after a stop no more are taken and nothing more is written. -/
theorem frames_carried :
    (∀ (frames : List Frame) (tail : Bytes), (∀ f ∈ frames, f.payload.length ≤ 65535) →
      ∃ octets, Frame.writeAll frames = .ok octets ∧
        Frame.readMany frames.length (octets ++ tail) = .ok (frames, tail)) ∧
    (∀ (input rest : Bytes) (f : Frame), Frame.read input = .ok (f, rest) →
      ∃ octets, f.write = .ok octets ∧ input = octets ++ rest) ∧
    (∀ f : Frame, 65535 < f.payload.length →
      f.write = .error (.frameTooLarge f.payload.length)) ∧
    (∀ (m : Media) (id : TransportId) (t : Transport) (outlet : OutletId) (c : ChannelPair)
      (lane : Lane) (packet : Bytes), m.transports[id]? = some t →
      t.carrier = .interleaved outlet c → 65535 < packet.length →
        m.send id lane packet =
          .error (if t.stopped then .stopped else .frameTooLarge packet.length) ∧
        ∀ taken, Media.use id (taken, m) (.send lane packet) = (taken, m)) ∧
    (∀ (m : Media) (o : Outlet) (c : ChannelPair) (usages : List Usage), o.written = [] →
      let carried := m.carry o c usages
      Frame.readMany carried.1.length carried.2 = .ok (carried.1.map c.frame, []) ∧
      carried.1 = upTo o.room (Usage.sendable usages)) ∧
    ∀ (m : Media) (o : Outlet) (c : ChannelPair) (before later : List Usage),
      m.carry o c (before ++ .stop :: later) = m.carry o c before := by
  refine ⟨?_, fun input rest f => Frame.read_eq_ok_iff.mp, fun f => Frame.write_of_lt, ?_, ?_, ?_⟩
  · intro frames tail hframes
    obtain ⟨octets, hoctets⟩ := Frame.exists_writeAll hframes
    exact ⟨octets, hoctets, Frame.readMany_append hoctets tail⟩
  · intro m id t outlet c lane packet ht hc hsize
    have hrefused := Media.send_of_lt ht hc lane hsize
    exact ⟨hrefused, fun taken => Media.use_send_of_error hrefused taken⟩
  · intro m o c usages hunused
    obtain ⟨octets, hoctets, hcarry⟩ := m.carry_eq o c usages
    have hread := Frame.readMany_append hoctets []
    rw [List.length_map, List.append_nil] at hread
    rw [hcarry, hunused]
    exact ⟨hread, rfl⟩
  · intro m o c before later
    obtain ⟨octets, hoctets, hcarry⟩ := m.carry_eq o c (before ++ .stop :: later)
    obtain ⟨octets', hoctets', hcarry'⟩ := m.carry_eq o c before
    rw [Media.sendable_append_stop] at hoctets hcarry
    rw [hcarry, hcarry', Except.ok.inj (hoctets.symm.trans hoctets')]

/-- Four packets, the last one after a stop, for an outlet that takes two writes. -/
def fourPackets : List Usage :=
  [.start, .send .data [36, 0, 0, 1], .send .control [], .send .data [7], .stop, .start,
    .send .data [8]]

/-- One interleaved transport and its outlet. -/
def loneTransport : Media where
  transports := [{ carrier := .interleaved 0 ⟨2, 3⟩ }]
  outlets := [{}]

/-- The first two of four packets are carried, although one looks like a frame; a payload of 65536
octets is not. -/
theorem frames_carried_twoOfFour :
    (∃ octets, Frame.writeAll [⟨2, [36, 0, 0, 1]⟩, ⟨3, []⟩] = .ok octets ∧
      Frame.readMany 2 (octets ++ [79]) = .ok ([⟨2, [36, 0, 0, 1]⟩, ⟨3, []⟩], [79])) ∧
    (∃ octets, Frame.write ⟨9, [7]⟩ = .ok octets ∧
      ([36, 9, 0, 1, 7, 36] : Bytes) = octets ++ [36]) ∧
    (Frame.write ⟨0, List.replicate 65536 36⟩ = .error (.frameTooLarge 65536) ∧
      loneTransport.send 0 .data (List.replicate 65536 36) = .error (.frameTooLarge 65536)) ∧
    (Media.carry {} { budget := some 2 } ⟨2, 3⟩ fourPackets).1 =
      [(.data, [36, 0, 0, 1]), (.control, [])] ∧
    Frame.readMany 2 (Media.carry {} { budget := some 2 } ⟨2, 3⟩ fourPackets).2 =
      .ok ([⟨2, [36, 0, 0, 1]⟩, ⟨3, []⟩], []) := by
  obtain ⟨hread, hexact, hlong, hrefused, hcarried, -⟩ := frames_carried
  have hlength : (List.replicate 65536 (36 : UInt8)).length = 65536 := List.length_replicate
  generalize List.replicate 65536 (36 : UInt8) = long at hlength
  have hsize : 65535 < long.length := hlength ▸ Nat.lt_succ_self _
  obtain ⟨hdecoded, htaken⟩ := hcarried {} { budget := some 2 } ⟨2, 3⟩ fourPackets rfl
  have hfirst : upTo (some 2) (Usage.sendable fourPackets) =
      [(.data, [36, 0, 0, 1]), (.control, [])] := by decide
  replace htaken := htaken.trans hfirst
  rw [htaken] at hdecoded
  refine ⟨hread _ [79] (by decide), hexact _ [36] ⟨9, [7]⟩ (by decide), ⟨?_, ?_⟩, htaken, hdecoded⟩
  · rw [hlong ⟨0, long⟩ hsize, hlength]
  · rw [(hrefused loneTransport 0 _ 0 ⟨2, 3⟩ .data long rfl rfl hsize).1, hlength]
    rfl

end RtspServer
