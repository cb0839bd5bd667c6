/-
RtspServer/Proofs/Continuity.lean

The stream to one connection goes on without a gap.  All data packets that are
ever handed over for an entry, whatever transport it has at the time, are
numbered one after the other from the number drawn when it was registered, and
its counters tell how many there were (`Hub.Streamed`).

Only feeding a picture hands packets over.  It notes the counters of an entry in
a delivery, advances them there, and puts them back unless the delivery has
failed, in which case the entry is gone.  Every other operation leaves the
counters alone.
-/
import RtspServer.Proofs.Carriage
import RtspServer.Proofs.Entry
import RtspServer.Proofs.Ownership

namespace RtspServer

/-! ### Deliveries and entries -/

namespace Delivery

theorem of_ofSession? {s : Session} {d : Delivery} (hd : ofSession? s = some d) :
    d.conn = s.conn ∧ s.stream.transport = some d.transport ∧ d.ssrc = s.stream.ssrc ∧
      d.counters = s.stream.counters := by
  unfold ofSession? at hd
  split at hd
  · obtain ⟨transport, ht, rfl⟩ := Option.map_eq_some_iff.mp hd
    exact ⟨rfl, ht, rfl, rfl⟩
  · cases hd

theorem reportDue_of_ofSession? {s : Session} {d : Delivery} (hd : ofSession? s = some d) :
    d.reportDue = s.stream.reportDue := by
  unfold ofSession? at hd
  split at hd
  · obtain ⟨transport, -, rfl⟩ := Option.map_eq_some_iff.mp hd
    rfl
  · cases hd

/-- A delivery is for an entry that plays, and nothing has failed when it begins. -/
theorem start_of_ofSession? {s : Session} {d : Delivery} (hd : ofSession? s = some d) :
    s.isPlaying = true ∧ d.failed = false := by
  unfold ofSession? at hd
  split at hd
  · next hplaying =>
    obtain ⟨transport, -, rfl⟩ := Option.map_eq_some_iff.mp hd
    exact ⟨hplaying, rfl⟩
  · cases hd

/-- The delivery to an entry is the only one that concerns it. -/
theorem find?_concerns {deliveries : List Delivery} (hnodup : (deliveries.map (·.conn)).Nodup)
    {d : Delivery} (hd : d ∈ deliveries) {s : Session} (hc : d.conn = s.conn)
    (ht : s.stream.transport = some d.transport) :
    deliveries.find? (concerns s) = some d := by
  have hconcerns : concerns s d = true := by simp [concerns, hc, ht]
  rcases hf : deliveries.find? (concerns s) with - | e
  · exact absurd hconcerns (List.find?_eq_none.mp hf d hd)
  · have he : e.conn = s.conn := by
      have := List.find?_some hf
      simp only [concerns, Bool.and_eq_true, beq_iff_eq] at this
      exact this.1
    rw [List.inj_on_of_nodup_map hnodup (List.mem_of_find?_eq_some hf) hd (he.trans hc.symm)]

theorem find?_concerns_eq_none {deliveries : List Delivery} {s : Session}
    (hc : ∀ d ∈ deliveries, d.conn ≠ s.conn) : deliveries.find? (concerns s) = none := by
  refine List.find?_eq_none.mpr fun d hd h => hc d hd ?_
  simp only [concerns, Bool.and_eq_true, beq_iff_eq] at h
  exact h.1

end Delivery

namespace Hub

theorem mem_deliveries {h : Hub} {d : Delivery} :
    d ∈ h.deliveries ↔ ∃ s ∈ h.sessions, Delivery.ofSession? s = some d :=
  List.mem_filterMap

theorem Numbered.nodup_deliveries {h : Hub} (hn : h.Numbered) :
    (h.deliveries.map (·.conn)).Nodup := by
  have hconns : h.sessions.Pairwise fun s t => s.conn ≠ t.conn := List.pairwise_map.mp hn.nodup
  refine List.pairwise_map.mpr (hconns.filterMap _ ?_)
  intro s t hne d hd e he hc
  exact hne ((Delivery.of_ofSession? hd).1.symm.trans (hc.trans (Delivery.of_ofSession? he).1))

/-- An entry to which nothing is delivered has no delivery. -/
theorem Numbered.conn_ne_of_ofSession? {h : Hub} (hn : h.Numbered) {s : Session}
    (hs : s ∈ h.sessions) (hof : Delivery.ofSession? s = none) :
    ∀ d ∈ h.deliveries, d.conn ≠ s.conn := by
  intro d hd hconn
  obtain ⟨u, hu, hofu⟩ := mem_deliveries.mp hd
  rw [hn.eq_of_conn hu hs ((Delivery.of_ofSession? hofu).1.symm.trans hconn), hof] at hofu
  cases hofu

/-- What is handed over for an entry is stamped from its counters on, and once the deliveries are
settled its counters have advanced by that. -/
theorem Numbered.served {h : Hub} (hn : h.Numbered) (clock : UInt32) (wall : Rtcp.NtpTime)
    (packets : List Bytes) {s : Session} (hs : s ∈ h.sessions) :
    let handed := Delivery.handedTo clock wall packets s.conn h.deliveries h.media
    let sent := (Delivery.sendAll clock wall packets h.deliveries h.media).1
    Handover.Consecutive s.stream.sequence s.stream.ssrc handed ∧
      (Delivery.settle sent s).stream.counters = s.stream.counters.advance handed := by
  intro handed sent
  have hmap : sent.map (·.conn) = h.deliveries.map (·.conn) :=
    Delivery.map_conn_sendAll clock wall packets h.deliveries h.media
  rcases hof : Delivery.ofSession? s with - | d
  · -- nothing is delivered to the entry, so nothing is put back
    have hnone := hn.conn_ne_of_ofSession? hs hof
    have hnone' : ∀ d ∈ sent, d.conn ≠ s.conn := by
      intro d hd hconn
      obtain ⟨e, he, heq⟩ := List.mem_map.mp (hmap ▸ List.mem_map.mpr ⟨d, hd, rfl⟩)
      exact hnone e he (heq.trans hconn)
    rw [show handed = [] from Delivery.handedTo_eq_nil clock wall packets hnone h.media,
      Delivery.settle, Delivery.find?_concerns_eq_none hnone', Counters.advance_nil]
    exact ⟨.nil _ _, rfl⟩
  · -- the delivery starts from the counters of the entry
    obtain ⟨hconn, htransport, hssrc, hcounters⟩ := Delivery.of_ofSession? hof
    obtain ⟨d', hd', hsent, -⟩ := Delivery.exists_sent clock wall packets hn.nodup_deliveries
      h.media (mem_deliveries.mpr ⟨s, hs, hof⟩)
    rw [hconn] at hsent
    constructor
    · have hstamped := hsent.stamped
      rw [hssrc, show d.sequence = s.stream.sequence from congrArg Counters.sequence hcounters]
        at hstamped
      exact hstamped
    · rw [Delivery.settle, Delivery.find?_concerns (hmap ▸ hn.nodup_deliveries) hd'
        (hsent.conn.trans hconn) (hsent.transport ▸ htransport)]
      show d'.counters = _
      rw [hsent.counters, hcounters]

/-- Where an entry comes from that is there after deliveries have been concluded. -/
theorem of_mem_conclude {h : Hub} {deliveries : List Delivery} {t : Session}
    (ht : t ∈ (h.conclude deliveries).2.sessions) :
    ∃ s ∈ h.sessions, s.conn = t.conn ∧ Delivery.failedFor deliveries s = false ∧
      t = Delivery.settle deliveries s := by
  obtain ⟨s, hs, rfl⟩ := List.mem_map.mp ht
  obtain ⟨hmem, hkept⟩ := List.mem_filter.mp hs
  exact ⟨s, hmem, (s.revised_settle deliveries).conn.symm, by simpa using hkept, rfl⟩

/-! ### All handovers of a run -/

/-- What an operation hands over for a connection. -/
def handedBy (h : Hub) (conn : ConnId) : Operation → List Handover
  | .feed picture wall =>
    match h.packetizer.packets picture with
    | .ok packets =>
      Delivery.handedTo (Rtp.videoClock picture.time) wall packets conn h.deliveries h.media
    | .error _ => []
  | _ => []

/-- What is handed over for a connection while operations happen one after the other. -/
def handedOver (h : Hub) (conn : ConnId) : List Operation → List Handover
  | [] => []
  | o :: rest => h.handedBy conn o ++ (h.perform o).2.handedOver conn rest

theorem handedBy_of_quiet (h : Hub) (conn : ConnId) {o : Operation} (ho : o.isQuiet = true) :
    h.handedBy conn o = [] := by
  cases o with
  | feed picture wall => cases ho
  | _ => rfl

/-- The handovers `l` continue the stream that an entry was at as `first`, and lead to where the
entry is, if it lives. -/
structure Streamed (first : Session) (l : List Handover) (h : Hub) : Prop where
  below : first.conn < h.nextConn
  stamped : Handover.Consecutive first.stream.sequence first.stream.ssrc l
  living : ∀ t ∈ h.sessions, t.conn = first.conn →
    t.stream.ssrc = first.stream.ssrc ∧
      t.stream.counters = first.stream.counters.advance l

theorem Streamed.of_mem {h : Hub} (hn : h.Numbered) {s : Session} (hs : s ∈ h.sessions) :
    Streamed s [] h := by
  refine ⟨hn.below s hs, .nil _ _, fun t ht hc => ?_⟩
  rw [hn.eq_of_conn ht hs hc, Counters.advance_nil]
  exact ⟨rfl, rfl⟩

/-- Changes that leave the counters alone hand nothing over. -/
theorem Streamed.change {first : Session} {l : List Handover} {h h' : Hub} (hn : h.Numbered)
    (hs : Streamed first l h) (hc : Change Session.Untouched h h') : Streamed first l h' := by
  refine ⟨Nat.lt_of_lt_of_le hs.below hc.nextConn_le, hs.stamped, fun t ht hconn => ?_⟩
  rcases hc.mem_sessions .refl hn ht with ⟨s, hmem, hu⟩ | hnew | ⟨s, hmem, id, transport, rfl, -⟩
  · have hcounters : t.stream.counters = s.stream.counters := by
      simp only [Stream.counters, hu.sequence, hu.packetCount, hu.octetCount]
    rw [hu.ssrc, hcounters]
    exact hs.living s hmem (hu.conn ▸ hconn)
  · exact absurd (hnew.conn ▸ hconn) (Nat.ne_of_gt hs.below)
  · exact hs.living s hmem hconn

/-- Feeding a picture hands its packets over and counts them. -/
theorem Streamed.feed {first : Session} {l : List Handover} {h : Hub} (hn : h.Numbered)
    (hs : Streamed first l h) (picture : Picture) (wall : Rtcp.NtpTime) :
    Streamed first (l ++ h.handedBy first.conn (.feed picture wall))
      (h.feed picture wall).2 := by
  rcases hp : h.packetizer.packets picture with fault | packets
  · rw [feed_eq_self (Or.inr ⟨fault, hp⟩), handedBy, hp, List.append_nil]
    exact hs
  by_cases hd : h.deliveries = []
  · rw [feed_eq_self (Or.inl hd), handedBy, hp, hd]
    show Streamed first (l ++ []) h
    rw [List.append_nil]
    exact hs
  rw [feed_eq hd hp, handedBy, hp]
  show Streamed first (l ++ Delivery.handedTo _ wall packets first.conn h.deliveries h.media) _
  generalize Rtp.videoClock picture.time = clock
  refine ⟨hs.below, ?_, ?_⟩
  · -- the packets go on from where the entry is, if it still lives
    by_cases hthere : ∃ s ∈ h.sessions, s.conn = first.conn
    · obtain ⟨s, hmem, hconn⟩ := hthere
      obtain ⟨hssrc, hcounters⟩ := hs.living s hmem hconn
      have hstamped := (hn.served clock wall packets hmem).1
      rw [hconn, hssrc, show s.stream.sequence = first.stream.sequence + UInt16.ofNat l.length from
        congrArg Counters.sequence hcounters] at hstamped
      exact hs.stamped.append hstamped
    · have hnone : ∀ d ∈ h.deliveries, d.conn ≠ first.conn := by
        intro d hd hconn
        obtain ⟨s, hmem, hof⟩ := mem_deliveries.mp hd
        exact hthere ⟨s, hmem, (Delivery.of_ofSession? hof).1.symm.trans hconn⟩
      rw [Delivery.handedTo_eq_nil _ _ _ hnone, List.append_nil]
      exact hs.stamped
  · -- an entry that lives on has its counters put back
    intro t ht hconn
    obtain ⟨s, hmem, hsame, -, rfl⟩ := of_mem_conclude ht
    have hsconn : s.conn = first.conn := hsame.trans hconn
    obtain ⟨hssrc, hcounters⟩ := hs.living s hmem hsconn
    refine ⟨(s.revised_settle _).ssrc.trans hssrc, ?_⟩
    rw [(hn.served clock wall packets hmem).2, hcounters, hsconn, Counters.advance_append]

theorem Streamed.perform {first : Session} {l : List Handover} {h : Hub} (hn : h.Numbered)
    (hs : Streamed first l h) (o : Operation) :
    Streamed first (l ++ h.handedBy first.conn o) (h.perform o).2 := by
  cases ho : o.isQuiet with
  | true =>
    rw [handedBy_of_quiet h first.conn ho, List.append_nil]
    exact changes_induction (fun _ _ hu => hu.toRevised) (fun hn hs hc => hs.change hn hc) hn hs
      (changes_perform_of_quiet hn ho)
  | false =>
    cases o with
    | feed picture wall => exact hs.feed hn picture wall
    | _ => cases ho

theorem Streamed.run {first : Session} {l : List Handover} {h : Hub} (hn : h.Numbered)
    (hs : Streamed first l h) (operations : List Operation) :
    Streamed first (l ++ h.handedOver first.conn operations) (h.run operations) := by
  induction operations generalizing l h with
  | nil =>
    rw [handedOver, List.append_nil]
    exact hs
  | cons o rest ih =>
    rw [handedOver, ← List.append_assoc]
    exact ih (numbered_run hn [o]) (hs.perform hn o)

/-! ### The packets are those of the pictures -/

/-- What a feed hands over for a connection is the beginning of the picture's packets. -/
theorem isPrefix_handedBy {h : Hub} (hn : h.Numbered) (conn : ConnId) {picture : Picture}
    {packets : List Bytes} (hp : h.packetizer.packets picture = .ok packets)
    (wall : Rtcp.NtpTime) :
    (h.handedBy conn (.feed picture wall)).map (·.packet) <+: packets := by
  rw [handedBy, hp]
  show (Delivery.handedTo _ wall packets conn h.deliveries h.media).map (·.packet) <+: packets
  by_cases hthere : ∃ d ∈ h.deliveries, d.conn = conn
  · obtain ⟨d, hd, rfl⟩ := hthere
    obtain ⟨_, -, -, hbegin⟩ := Delivery.exists_sent _ wall packets hn.nodup_deliveries h.media hd
    exact hbegin
  · rw [Delivery.handedTo_eq_nil _ _ _ fun d hd hc => hthere ⟨d, hd, hc⟩]
    exact List.nil_prefix

/-- No two deliveries use the same transport. -/
theorem Owned.nodup_deliveries {h : Hub} (hn : h.Numbered) (hh : h.Owned) :
    (h.deliveries.map (·.transport)).Nodup := by
  have hconns : h.sessions.Pairwise fun s t => s.conn ≠ t.conn := List.pairwise_map.mp hn.nodup
  refine List.pairwise_map.mpr (List.Pairwise.filterMap _ ?_
    (hconns.imp_of_mem fun {s t} hs ht hne => And.intro hne (And.intro hs ht)))
  rintro s t ⟨hne, hs, ht⟩ d hd e he hsame
  have hsid : Holds s d.transport := (Delivery.of_ofSession? hd).2.1
  have htid : Holds t d.transport := hsame ▸ (Delivery.of_ofSession? he).2.1
  exact hne (hh.apart s hs t ht d.transport hsid htid)

/-- **What a feed hands over for an entry is what its transport carries**, but for the last packet
if it was refused. -/
theorem Owned.carriedOn_feed {h : Hub} (hn : h.Numbered) (hh : h.Owned) {s : Session}
    (hs : s ∈ h.sessions) {id : TransportId} (hid : s.stream.transport = some id)
    (picture : Picture) (wall : Rtcp.NtpTime) :
    ∃ refused, refused.length ≤ 1 ∧
      (h.feed picture wall).2.media.carriedOn id .data ++ refused =
        h.media.carriedOn id .data ++
          (h.handedBy s.conn (.feed picture wall)).map (·.octets) := by
  rcases hp : h.packetizer.packets picture with fault | packets
  · rw [feed_eq_self (Or.inr ⟨fault, hp⟩), handedBy, hp]
    exact ⟨[], Nat.zero_le _, rfl⟩
  by_cases hd : h.deliveries = []
  · rw [feed_eq_self (Or.inl hd), handedBy, hp, hd]
    exact ⟨[], Nat.zero_le _, rfl⟩
  rw [feed_eq hd hp, carriedOn_conclude, handedBy, hp]
  show ∃ refused : List Bytes, _ ∧
    (Delivery.sendAll _ wall packets h.deliveries h.media).2.carriedOn id .data ++ refused =
      _ ++ (Delivery.handedTo _ wall packets s.conn h.deliveries h.media).map _
  rcases hof : Delivery.ofSession? s with - | d
  · -- nothing is delivered to the entry, and its transport is nobody else's
    have hnone := hn.conn_ne_of_ofSession? hs hof
    have hother : ∀ d ∈ h.deliveries, d.transport ≠ id := by
      rintro d hd rfl
      obtain ⟨u, hu, hofu⟩ := mem_deliveries.mp hd
      obtain ⟨hconn, htransport, -, -⟩ := Delivery.of_ofSession? hofu
      exact hnone d hd (hconn.trans (hh.apart u hu s hs d.transport htransport hid))
    rw [Delivery.carriedOn_sendAll_of_ne _ wall packets hother,
      Delivery.handedTo_eq_nil _ wall packets hnone]
    exact ⟨[], Nat.zero_le _, rfl⟩
  · obtain ⟨hconn, htransport, -, -⟩ := Delivery.of_ofSession? hof
    obtain rfl := Option.some.inj (hid.symm.trans htransport)
    rw [← hconn]
    exact Delivery.carriedOn_sendAll _ wall packets hn.nodup_deliveries (hh.nodup_deliveries hn)
      h.media (mem_deliveries.mpr ⟨s, hs, hof⟩)

theorem Change.packetizer {R : Session → Session → Prop} {h h' : Hub} (hc : Change R h h') :
    h'.packetizer = h.packetizer := by
  cases hc with
  | setUp conn transport =>
    rcases h.setUp_cases conn transport with ⟨_, _, e⟩ | ⟨_, _, _, _, e⟩ | ⟨_, _, _, _, e⟩ <;>
      rw [e]
  | _ => rfl

/-- The packetizer is the same all the time. -/
theorem packetizer_run {h : Hub} (hn : h.Numbered) (operations : List Operation) :
    (h.run operations).packetizer = h.packetizer :=
  run_induction (P := fun h' => h'.packetizer = h.packetizer)
    (fun _ hp hc => hc.packetizer.trans hp) hn rfl operations

/-- Every handover of a run is a packet of some picture. -/
theorem cut_of_handedOver {h : Hub} (hn : h.Numbered) (conn : ConnId)
    (operations : List Operation) :
    ∀ x ∈ h.handedOver conn operations, ∃ picture packets,
      h.packetizer.packets picture = .ok packets ∧ x.packet ∈ packets := by
  induction operations generalizing h with
  | nil => exact fun _ hx => absurd hx List.not_mem_nil
  | cons o rest ih =>
    intro x hx
    rcases List.mem_append.mp hx with hx | hx
    · cases o with
      | feed picture wall =>
        rcases hp : h.packetizer.packets picture with fault | packets
        · rw [handedBy, hp] at hx
          cases hx
        · have hsub := (isPrefix_handedBy hn conn hp wall).subset
          exact ⟨picture, packets, hp, hsub (List.mem_map_of_mem hx)⟩
      | _ => cases hx
    · obtain ⟨picture, packets, hp, hmem⟩ := ih (numbered_run hn [o]) x hx
      exact ⟨picture, packets, packetizer_run hn [o] ▸ hp, hmem⟩

/-- The header of a packet that continues a stream. -/
theorem Streamed.read? {first : Session} {l : List Handover} {h : Hub} (hs : Streamed first l h)
    {i : Nat} {x : Handover} (hx : l[i]? = some x)
    (hcut : ∃ picture packets, h.packetizer.packets picture = .ok packets ∧ x.packet ∈ packets) :
    ∃ header, Rtp.Header.read? x.octets = some header ∧
      header.sequence = first.stream.sequence + UInt16.ofNat i ∧
      header.ssrc = first.stream.ssrc := by
  obtain ⟨picture, packets, hp, hmem⟩ := hcut
  exact hs.stamped.read? hx (Jpeg.Packetizer.read?_packets hp x.packet hmem)

/-- A packet that continues a stream is as long as it was cut, and the same outside its sequence
number and its source. -/
theorem Streamed.octets {first : Session} {l : List Handover} {h : Hub} (hs : Streamed first l h)
    {i : Nat} {x : Handover} (hx : l[i]? = some x) :
    x.octets.length = x.packet.length ∧
      ∀ k, (k < 2 ∨ 4 ≤ k) → (k < 8 ∨ 12 ≤ k) → x.octets[k]? = x.packet[k]? := by
  rw [hs.stamped i x hx]
  exact ⟨Rtp.length_stamp _ _ _, fun k hk hk' => Rtp.getElem?_stamp _ _ _ hk hk'⟩

/-- An entry that lives has counted what was handed over since it was registered. -/
theorem Streamed.toNat_counters {first : Session} {l : List Handover} {h : Hub}
    (hs : Streamed first l h) (hpackets : first.stream.packetCount = 0)
    (hoctets : first.stream.octetCount = 0) {t : Session} (ht : t ∈ h.sessions)
    (hconn : t.conn = first.conn) :
    t.stream.ssrc = first.stream.ssrc ∧
      t.stream.sequence.toNat = (first.stream.sequence.toNat + l.length) % UInt16.size ∧
      t.stream.packetCount.toNat = l.length % UInt32.size ∧
      t.stream.octetCount.toNat = Handover.payload l % UInt32.size := by
  obtain ⟨hssrc, hcounters⟩ := hs.living t ht hconn
  obtain ⟨hsequence, hpackets', hoctets'⟩ := Counters.mk.inj hcounters
  refine ⟨hssrc, ?_, ?_, ?_⟩
  · rw [hsequence]
    show (first.stream.sequence + UInt16.ofNat l.length).toNat = _
    rw [UInt16.toNat_add, UInt16.toNat_ofNat', Nat.add_mod_mod]
  · rw [hpackets']
    show (first.stream.packetCount + UInt32.ofNat l.length).toNat = _
    rw [hpackets, UInt32.zero_add, UInt32.toNat_ofNat']
  · rw [hoctets']
    show (first.stream.octetCount + UInt32.ofNat (Handover.payload l)).toNat = _
    rw [hoctets, UInt32.zero_add, UInt32.toNat_ofNat']

/-! ### PLAY -/

/-- The number that PLAY gives is the one of the next packet that is handed over for the session,
whatever happens before. -/
theorem sequence_of_play {h : Hub} (hn : h.Numbered) {id : Text} {number : UInt16} {played : Hub}
    (hp : h.play id = (.ok number, played)) :
    ∃ s, h.session? id = some s ∧ ∀ next, ∀ x ∈ (played.handedOver s.conn next).head?,
      ∃ header, Rtp.Header.read? x.octets = some header ∧ header.sequence = number ∧
        header.ssrc = s.stream.ssrc := by
  have hstart : ∃ s, h.session? id = some s ∧ s.stream.sequence = number := by
    rcases h.play_cases id with ⟨fault, he⟩ | ⟨s, hs, -, he⟩ <;> rw [he] at hp
    · cases hp
    · exact ⟨s, hs, Except.ok.inj (congrArg Prod.fst hp)⟩
  obtain ⟨s, hs, rfl⟩ := hstart
  refine ⟨s, hs, fun next x hx => ?_⟩
  -- the stream goes on from where the entry was before PLAY
  have hbefore : Streamed s [] h := .of_mem hn (mem_of_session? hs).1
  have hplayed : (h.perform (.play id)).2 = played := congrArg Prod.snd hp
  have hn' : played.Numbered := hplayed ▸ numbered_run hn [.play id]
  have hafter : Streamed s [] played := hplayed ▸ hbefore.perform hn (.play id)
  have hcut := cut_of_handedOver hn' s.conn next x (List.mem_of_mem_head? hx)
  rw [← packetizer_run hn' next] at hcut
  obtain ⟨header, hread, hsequence, hssrc⟩ := (hafter.run hn' next).read?
    (List.head?_eq_getElem? (l := _) ▸ hx) hcut
  exact ⟨header, hread, by simpa using hsequence, hssrc⟩

/-- The answer to a successful PLAY tells its number. -/
theorem answerPlay_of_play {h : Hub} {id : Text} {number : UInt16} {played : Hub}
    (hp : h.play id = (.ok number, played)) {r : Request} (hr : r.sessionId? = some id) :
    (h.answerPlay r).2 = played ∧
      (h.answerPlay r).1.headers.get? "RTP-Info".toList =
        some ("url=".toList ++ r.target ++ ";seq=".toList ++ Text.decimal number.toNat) := by
  unfold answerPlay
  rw [hr]
  simp only [hp, true_and]
  exact Headers.get?_insert_self _ _ _

/-! ### After any run -/

section Opened

variable (settings : Settings) (authenticator : Option Authenticator)
  (packetizer : Jpeg.Packetizer) (entropy : Entropy) (ports : PortPool) (linkFault : Option Text)

/-- **The stream has no gap.**  Let a connection be registered after any run of a hub that was
opened without connections, let any run follow, and take all data packets handed over for the
entry in that time.

* Packet `i` carries the number drawn at registration plus `i` and the source drawn then, it is one
  of the packets cut from some picture, and differs from it in these two fields at most.
* The entry, if it still lives, has counted exactly these packets.
* A picture that is fed now hands over its packets from the first one on, and that is what the
  transport of the entry carries, except that it may refuse the last.
* The number that PLAY gives now, and its answer tells, is the one of the next packet handed over
  for the session, whatever happens before that. -/
theorem stream_continuity (before after : List Operation) (peer : SocketAddress)
    (outlet : Outlet) (now : Nat) :
    let start := (opened settings authenticator packetizer entropy ports linkFault).run before
    let first := (start.register peer outlet now).1
    let registered := (start.register peer outlet now).2
    let handed := registered.handedOver first.conn after
    let h := registered.run after
    (∀ i x, handed[i]? = some x →
      (∃ header, Rtp.Header.read? x.octets = some header ∧
        header.sequence.toNat = (first.stream.sequence.toNat + i) % UInt16.size ∧
        header.ssrc = first.stream.ssrc) ∧
      (∃ picture packets, packetizer.packets picture = .ok packets ∧ x.packet ∈ packets) ∧
      x.octets.length = x.packet.length ∧
      ∀ k, (k < 2 ∨ 4 ≤ k) → (k < 8 ∨ 12 ≤ k) → x.octets[k]? = x.packet[k]?) ∧
    (∀ t ∈ h.sessions, t.conn = first.conn →
      t.stream.ssrc = first.stream.ssrc ∧
      t.stream.sequence.toNat = (first.stream.sequence.toNat + handed.length) % UInt16.size ∧
      t.stream.packetCount.toNat = handed.length % UInt32.size ∧
      t.stream.octetCount.toNat = Handover.payload handed % UInt32.size) ∧
    (∀ picture packets wall, packetizer.packets picture = .ok packets →
      (h.handedBy first.conn (.feed picture wall)).map (·.packet) <+: packets) ∧
    (∀ t ∈ h.sessions, t.conn = first.conn → ∀ id, t.stream.transport = some id →
      ∀ picture wall, ∃ refused, refused.length ≤ 1 ∧
        (h.feed picture wall).2.media.carriedOn id .data ++ refused =
          h.media.carriedOn id .data ++
            (h.handedBy first.conn (.feed picture wall)).map (·.octets)) ∧
    ∀ id number played, h.play id = (.ok number, played) →
      (∃ s, h.session? id = some s ∧ ∀ next, ∀ x ∈ (played.handedOver s.conn next).head?,
        ∃ header, Rtp.Header.read? x.octets = some header ∧ header.sequence = number ∧
          header.ssrc = s.stream.ssrc) ∧
      ∀ request : Request, request.sessionId? = some id →
        (h.answerPlay request).2 = played ∧
        (h.answerPlay request).1.headers.get? "RTP-Info".toList =
          some ("url=".toList ++ request.target ++ ";seq=".toList ++
            Text.decimal number.toNat) := by
  intro start first registered handed h
  have hn₀ := numbered_opened settings authenticator packetizer entropy ports linkFault
  have hstart : start.Numbered := numbered_run hn₀ before
  have hregistered : registered.Numbered := numbered_run hstart [.connect peer outlet now]
  have hn : h.Numbered := numbered_run hregistered after
  have howned := owned_opened settings authenticator packetizer entropy ports linkFault
  have hh : h.Owned :=
    ((howned.run hn₀ before).run hstart [.connect peer outlet now]).run hregistered after
  have hpacketizer : h.packetizer = packetizer :=
    (packetizer_run hregistered after).trans (packetizer_run hn₀ before)
  have hmem : first ∈ registered.sessions := List.mem_append_right _ List.mem_cons_self
  have hs : Streamed first handed h := (Streamed.of_mem hregistered hmem).run hregistered after
  have hcut := cut_of_handedOver hregistered first.conn after
  rw [← packetizer_run hregistered after] at hcut
  refine ⟨?_, fun t ht hconn => hs.toNat_counters rfl rfl ht hconn,
    fun picture packets wall hp => isPrefix_handedBy hn first.conn (hpacketizer.symm ▸ hp) wall,
    fun t ht hconn id hid picture wall => hconn ▸ hh.carriedOn_feed hn ht hid picture wall,
    fun id number played hp =>
      ⟨sequence_of_play hn hp, fun request hr => answerPlay_of_play hp hr⟩⟩
  intro i x hx
  have hxcut := hcut x (List.mem_of_getElem? hx)
  obtain ⟨header, hread, hsequence, hssrc⟩ := hs.read? hx hxcut
  refine ⟨⟨header, hread, ?_, hssrc⟩, hpacketizer ▸ hxcut, hs.octets hx⟩
  rw [hsequence, UInt16.toNat_add, UInt16.toNat_ofNat', Nat.add_mod_mod]

end Opened

end Hub

end RtspServer
