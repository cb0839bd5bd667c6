/-
RtspServer/Proofs/Isolation.lean

Sessions do not disturb each other while a picture is sent.  If every connection
has a transport and a writer of its own (`Hub.Apart`), then what a session gets
and what becomes of it depends on its entry, its transport, its outlet and the
link only (`Hub.Apart.isolated`).  So it does not matter who else plays, whose
transport fails, or in which order the sessions are served (`Hub.Apart.feed_perm`).

Three things have to be seen: that deliveries are made side by side, that each
entry finds its own delivery again, and that letting go of one entry leaves the
others alone.
-/
import RtspServer.Proofs.Alike
import RtspServer.Proofs.Arena
import RtspServer.Proofs.Continuity
import RtspServer.Proofs.Outlets

namespace RtspServer

attribute [ext] Media

/-! ### Deliveries in another order -/

namespace Delivery

theorem totalSent_perm {ds es : List Delivery} (h : ds.Perm es) : totalSent ds = totalSent es := by
  induction h with
  | nil => rfl
  | cons d _ ih => rw [totalSent, totalSent, ih]
  | swap d e rest => simp only [totalSent]; omega
  | trans _ _ ih₁ ih₂ => exact ih₁.trans ih₂

/-- An entry finds its delivery wherever it stands. -/
theorem find?_concerns_perm {ds es : List Delivery} (h : ds.Perm es)
    (hnodup : (es.map (·.conn)).Nodup) (s : Session) :
    ds.find? (concerns s) = es.find? (concerns s) := by
  rcases he : es.find? (concerns s) with - | e
  · exact List.find?_eq_none.mpr fun d hd => List.find?_eq_none.mp he d (h.subset hd)
  · have hconcerns := List.find?_some he
    have hmem : e ∈ ds := h.symm.subset (List.mem_of_find?_eq_some he)
    simp only [concerns, Bool.and_eq_true, beq_iff_eq] at hconcerns
    exact find?_concerns ((h.map _).symm.nodup hnodup) hmem hconcerns.1 hconcerns.2

/-- What becomes of an entry depends on the delivery that it finds. -/
theorem verdict_eq {ds es : List Delivery} {s : Session}
    (h : ds.find? (concerns s) = es.find? (concerns s)) :
    failedFor ds s = failedFor es s ∧ settle ds s = settle es s := by
  rw [failedFor, failedFor, settle, settle, h]
  exact ⟨rfl, rfl⟩

theorem Disjoint.perm {out : Delivery → OutletId} {ds es : List Delivery} {m : Media}
    (h : Disjoint out ds m) (hp : es.Perm ds) : Disjoint out es m :=
  ⟨(hp.pairwise_iff fun hne => Ne.symm hne).mpr h.transports,
    (hp.pairwise_iff fun hne => Ne.symm hne).mpr h.outlets,
    fun d hd => h.writes d (hp.subset hd)⟩

section SendAll

variable {clock : UInt32} {wall : Rtcp.NtpTime} {packets : List Bytes}
  {out : Delivery → OutletId} {ds es : List Delivery} {m : Media}

/-- What deliveries do side by side does not depend on their order. -/
theorem Parallel.unique {a b : Media} (ha : Parallel clock wall packets out ds m a)
    (hb : Parallel clock wall packets out es m b) (hp : es.Perm ds) : b = a := by
  have htransports : b.transports = a.transports := by
    apply List.ext_getElem?
    intro i
    by_cases hi : ∃ d ∈ ds, d.transport = i
    · obtain ⟨d, hd, rfl⟩ := hi
      rw [(ha.own d hd).1, (hb.own d (hp.symm.subset hd)).1]
    · rw [ha.transports i fun d hd he => hi ⟨d, hd, he⟩,
        hb.transports i fun d hd he => hi ⟨d, hp.subset hd, he⟩]
  have houtlets : b.outlets = a.outlets := by
    apply List.ext_getElem?
    intro i
    by_cases hi : ∃ d ∈ ds, out d = i
    · obtain ⟨d, hd, rfl⟩ := hi
      rw [(ha.own d hd).2, (hb.own d (hp.symm.subset hd)).2]
    · rw [ha.outlets i fun d hd he => hi ⟨d, hd, he⟩,
        hb.outlets i fun d hd he => hi ⟨d, hp.subset hd, he⟩]
  exact Media.ext htransports houtlets (hb.ports.trans ha.ports.symm)
    (hb.linkFault.trans ha.linkFault.symm)

variable (clock wall packets) in
/-- Deliveries can be made in any order. -/
theorem sendAll_perm (h : Disjoint out ds m) (hp : es.Perm ds) :
    (sendAll clock wall packets es m).1.Perm (sendAll clock wall packets ds m).1 ∧
      (sendAll clock wall packets es m).2 = (sendAll clock wall packets ds m).2 := by
  obtain ⟨hlist, hparallel⟩ := sendAll_parallel clock wall packets h
  obtain ⟨hlist', hparallel'⟩ := sendAll_parallel clock wall packets (h.perm hp)
  refine ⟨?_, hparallel.unique hparallel' hp⟩
  rw [hlist, hlist']
  exact hp.map _

end SendAll

end Delivery

namespace Hub

/-! ### Letting go, transport by transport and outlet by outlet -/

/-- Letting go of entries stops their transports and leaves the others as they are. -/
theorem transports_letGoAll (keepOutlet : Session → Bool) (gone : List Session) (m : Media)
    (id : TransportId) :
    (gone.foldl (letGo keepOutlet) m).transports[id]? =
      if ∃ s ∈ gone, Holds s id then
        m.transports[id]?.map fun t => { t with stopped := true }
      else m.transports[id]? := by
  have hone : ∀ (m : Media) (s : Session), (letGo keepOutlet m s).transports[id]? =
      if Holds s id then m.transports[id]?.map fun t => { t with stopped := true }
      else m.transports[id]? := by
    intro m s
    have hshut : (letGo keepOutlet m s).transports = (stopTransport m s).transports := by
      unfold letGo
      split <;> rfl
    rw [hshut]
    unfold stopTransport
    split
    · next other ho =>
      rw [Media.stop, Media.getElem?_updateTransport]
      by_cases he : other = id
      · rw [if_pos (show Holds s id from he ▸ ho)]
        simp [he]
      · have hno : ¬Holds s id := fun hid => he (Option.some.inj (ho.symm.trans hid))
        rw [if_neg hno]
        simp [he]
    · next ho =>
      have hno : ¬Holds s id := fun hid => Option.some_ne_none id (hid.symm.trans ho)
      rw [if_neg hno]
  induction gone generalizing m with
  | nil => simp
  | cons s rest ih =>
    rw [List.foldl_cons, ih, hone]
    simp only [List.exists_mem_cons_iff]
    -- stopping twice is stopping once
    by_cases hs : Holds s id <;> by_cases hrest : ∃ t ∈ rest, Holds t id
    · rw [if_pos hrest, if_pos hs, if_pos (Or.inl hs), Option.map_map]
      rfl
    · rw [if_neg hrest, if_pos hs, if_pos (Or.inl hs)]
    · rw [if_pos hrest, if_neg hs, if_pos (Or.inr hrest)]
    · rw [if_neg hrest, if_neg hs, if_neg (fun h => h.elim hs hrest)]

/-- Letting go of entries shuts their outlets and leaves the others as they are. -/
theorem outlets_evicted (gone : List Session) (m : Media) (id : OutletId) :
    (gone.foldl (letGo fun _ => false) m).outlets[id]? =
      if ∃ s ∈ gone, s.outlet = id then m.outlets[id]?.map fun o => { o with shut := true }
      else m.outlets[id]? := by
  have hone : ∀ (m : Media) (s : Session), (letGo (fun _ => false) m s).outlets[id]? =
      if s.outlet = id then m.outlets[id]?.map fun o => { o with shut := true }
      else m.outlets[id]? := by
    intro m s
    show ((stopTransport m s).outlets.modify s.outlet _)[id]? = _
    rw [outlets_stopTransport, List.getElem?_modify]
    by_cases he : s.outlet = id <;> simp [he]
  induction gone generalizing m with
  | nil => simp
  | cons s rest ih =>
    rw [List.foldl_cons, ih, hone]
    simp only [List.exists_mem_cons_iff]
    -- shutting twice is shutting once
    by_cases hs : s.outlet = id <;> by_cases hrest : ∃ t ∈ rest, t.outlet = id
    · rw [if_pos hrest, if_pos hs, if_pos (Or.inl hs), Option.map_map]
      rfl
    · rw [if_neg hrest, if_pos hs, if_pos (Or.inl hs)]
    · rw [if_pos hrest, if_neg hs, if_pos (Or.inr hrest)]
    · rw [if_neg hrest, if_neg hs, if_neg (fun h => h.elim hs hrest)]

theorem ports_letGoAll (keepOutlet : Session → Bool) (gone : List Session) (m : Media) :
    (gone.foldl (letGo keepOutlet) m).ports = m.ports ∧
      (gone.foldl (letGo keepOutlet) m).linkFault = m.linkFault := by
  induction gone generalizing m with
  | nil => exact ⟨rfl, rfl⟩
  | cons s rest ih =>
    have hone : (letGo keepOutlet m s).ports = m.ports ∧
        (letGo keepOutlet m s).linkFault = m.linkFault := by
      unfold letGo stopTransport
      (repeat' split) <;> exact ⟨rfl, rfl⟩
    exact ⟨(ih _).1.trans hone.1, (ih _).2.trans hone.2⟩

/-- Entries can be let go of in any order. -/
theorem letGoAll_perm {gone other : List Session} (hp : other.Perm gone) (m : Media) :
    other.foldl (letGo fun _ => false) m = gone.foldl (letGo fun _ => false) m := by
  have htransports : (other.foldl (letGo fun _ => false) m).transports =
      (gone.foldl (letGo fun _ => false) m).transports := by
    apply List.ext_getElem?
    intro i
    simp only [transports_letGoAll, hp.mem_iff]
  have houtlets : (other.foldl (letGo fun _ => false) m).outlets =
      (gone.foldl (letGo fun _ => false) m).outlets := by
    apply List.ext_getElem?
    intro i
    simp only [outlets_evicted, hp.mem_iff]
  obtain ⟨hports, hlink⟩ := ports_letGoAll (fun _ => false) gone m
  obtain ⟨hports', hlink'⟩ := ports_letGoAll (fun _ => false) other m
  exact Media.ext htransports houtlets (hports'.trans hports.symm) (hlink'.trans hlink.symm)

/-! ### Connections that have nothing in common -/

/-- Every connection has a transport and a writer of its own. -/
structure Apart (h : Hub) : Prop extends h.Numbered where
  outlets : (h.sessions.map (·.outlet)).Nodup
  transports : ∀ s ∈ h.sessions, ∀ t ∈ h.sessions, ∀ id, Holds s id → Holds t id → s.conn = t.conn
  writes : ∀ s ∈ h.sessions, ∀ id, Holds s id → h.media.Writes id s.outlet

/-- The outlet of the entry that a delivery is for. -/
def outletFor (h : Hub) (d : Delivery) : OutletId := ((h.entry? d.conn).map (·.outlet)).getD 0

/-- The entry of a connection is found by its number. -/
theorem Numbered.entry?_conn {h : Hub} (hn : h.Numbered) {s : Session} (hs : s ∈ h.sessions) :
    h.entry? s.conn = some s := by
  rcases he : h.entry? s.conn with - | t
  · exact absurd (beq_self_eq_true s.conn) (List.find?_eq_none.mp he s hs)
  · obtain ⟨ht, hconn⟩ := mem_of_entry_eq he
    rw [hn.eq_of_conn ht hs hconn]

namespace Apart

variable {h : Hub} (hh : h.Apart)

include hh

/-- Entries that are apart stay apart if some of them go. -/
theorem sublist {sessions : List Session} (hs : sessions.Sublist h.sessions) :
    { h with sessions }.Apart :=
  ⟨⟨hh.nodup.sublist (hs.map _), fun s hmem => hh.below s (hs.subset hmem)⟩,
    hh.outlets.sublist (hs.map _),
    fun s hs' t ht => hh.transports s (hs.subset hs') t (hs.subset ht),
    fun s hs' => hh.writes s (hs.subset hs')⟩

theorem outletFor_eq {s : Session} (hs : s ∈ h.sessions) {d : Delivery}
    (hd : Delivery.ofSession? s = some d) : h.outletFor d = s.outlet := by
  rw [outletFor, (Delivery.of_ofSession? hd).1, hh.entry?_conn hs]
  rfl

/-- The deliveries of a picture have nothing in common. -/
theorem disjoint : Delivery.Disjoint h.outletFor h.deliveries h.media := by
  have hconns : h.sessions.Pairwise fun s t => s.conn ≠ t.conn := List.pairwise_map.mp hh.nodup
  have houtlets : h.sessions.Pairwise fun s t => s.outlet ≠ t.outlet :=
    List.pairwise_map.mp hh.outlets
  refine ⟨?_, ?_, fun d hd => ?_⟩
  · refine List.Pairwise.filterMap _ ?_ (hconns.imp_of_mem fun {s t} hs ht hne =>
      And.intro hne (And.intro hs ht))
    rintro s t ⟨hne, hs, ht⟩ d hd e he hsame
    have hsid : Holds s d.transport := (Delivery.of_ofSession? hd).2.1
    have htid : Holds t d.transport := hsame ▸ (Delivery.of_ofSession? he).2.1
    exact hne (hh.transports s hs t ht d.transport hsid htid)
  · refine List.Pairwise.filterMap _ ?_ (houtlets.imp_of_mem fun {s t} hs ht hne =>
      And.intro hne (And.intro hs ht))
    rintro s t ⟨hne, hs, ht⟩ d hd e he
    rw [hh.outletFor_eq hs hd, hh.outletFor_eq ht he]
    exact hne
  · obtain ⟨s, hs, hof⟩ := mem_deliveries.mp hd
    rw [hh.outletFor_eq hs hof]
    exact hh.writes s hs d.transport (Delivery.of_ofSession? hof).2.1

/-- After all packets have gone out, an entry finds the delivery that would have been made to it
alone. -/
theorem find?_sent (clock : UInt32) (wall : Rtcp.NtpTime) (packets : List Bytes) {s : Session}
    (hs : s ∈ h.sessions) :
    (Delivery.sendAll clock wall packets h.deliveries h.media).1.find? (Delivery.concerns s) =
      (Delivery.ofSession? s).map fun d => (d.send clock wall packets h.media).1 := by
  obtain ⟨hlist, -⟩ := Delivery.sendAll_parallel clock wall packets hh.disjoint
  rcases hof : Delivery.ofSession? s with - | d
  · refine Delivery.find?_concerns_eq_none fun d' hd' => ?_
    rw [hlist] at hd'
    obtain ⟨d, hd, rfl⟩ := List.mem_map.mp hd'
    rw [(Delivery.sent_send clock wall packets d h.media).conn]
    exact hh.conn_ne_of_ofSession? hs hof d hd
  · obtain ⟨hconn, htransport, -, -⟩ := Delivery.of_ofSession? hof
    have hsent := Delivery.sent_send clock wall packets d h.media
    have hmem : (d.send clock wall packets h.media).1 ∈
        (Delivery.sendAll clock wall packets h.deliveries h.media).1 := by
      rw [hlist]
      exact List.mem_map.mpr ⟨d, mem_deliveries.mpr ⟨s, hs, hof⟩, rfl⟩
    refine Delivery.find?_concerns ?_ hmem (hsent.conn.trans hconn) (hsent.transport ▸ htransport)
    rw [Delivery.map_conn_sendAll]
    exact hh.nodup_deliveries

/-- The transport of an entry is stopped if the entry goes, and left alone if it stays. -/
theorem transports_gone (p : Session → Bool) (m : Media) {s : Session} (hs : s ∈ h.sessions)
    {id : TransportId} (hid : Holds s id) :
    ((h.sessions.filter p).foldl (letGo fun _ => false) m).transports[id]? =
      if p s then m.transports[id]?.map fun t => { t with stopped := true }
      else m.transports[id]? := by
  have hgone : (∃ t ∈ h.sessions.filter p, Holds t id) ↔ p s = true := by
    constructor
    · rintro ⟨t, ht, htid⟩
      obtain ⟨hmem, hp⟩ := List.mem_filter.mp ht
      rwa [hh.eq_of_conn hs hmem (hh.transports s hs t hmem id hid htid)]
    · exact fun hp => ⟨s, List.mem_filter.mpr ⟨hs, hp⟩, hid⟩
  simp only [transports_letGoAll, hgone]

/-- The outlet of an entry is shut if the entry goes, and left alone if it stays. -/
theorem outlets_gone (p : Session → Bool) (m : Media) {s : Session} (hs : s ∈ h.sessions) :
    ((h.sessions.filter p).foldl (letGo fun _ => false) m).outlets[s.outlet]? =
      if p s then m.outlets[s.outlet]?.map fun o => { o with shut := true }
      else m.outlets[s.outlet]? := by
  have hgone : (∃ t ∈ h.sessions.filter p, t.outlet = s.outlet) ↔ p s = true := by
    constructor
    · rintro ⟨t, ht, hout⟩
      obtain ⟨hmem, hp⟩ := List.mem_filter.mp ht
      rwa [← List.inj_on_of_nodup_map hh.outlets hmem hs hout]
    · exact fun hp => ⟨s, List.mem_filter.mpr ⟨hs, hp⟩, rfl⟩
  simp only [outlets_evicted, hgone]

end Apart

/-! ### What becomes of one entry -/

/-- After deliveries are concluded an entry has its counters, or is gone. -/
theorem Numbered.entry?_conclude {h : Hub} (hn : h.Numbered) (deliveries : List Delivery)
    {s : Session} (hs : s ∈ h.sessions) :
    Hub.entry? (h.conclude deliveries).2 s.conn =
      if Delivery.failedFor deliveries s then none
      else some (Delivery.settle deliveries s) := by
  have hn' : (h.conclude deliveries).2.Numbered :=
    hn.changes (changes_conclude h Session.revised_settle deliveries)
  split
  · next hfailed =>
    refine List.find?_eq_none.mpr fun t ht hconn => ?_
    obtain ⟨u, hu, hsame, hkept, rfl⟩ := of_mem_conclude ht
    rw [hn.eq_of_conn hu hs (hsame.trans (eq_of_beq hconn)), hfailed] at hkept
    cases hkept
  · next hkept =>
    rw [← (s.revised_settle deliveries).conn]
    refine hn'.entry?_conn (List.mem_map.mpr ⟨s, List.mem_filter.mpr ⟨hs, ?_⟩, rfl⟩)
    simp [hkept]

/-- After a picture an entry has its counters, or is gone. -/
theorem Numbered.entry?_feed {h : Hub} (hn : h.Numbered) {picture : Picture}
    {packets : List Bytes} (hd : h.deliveries ≠ [])
    (hp : h.packetizer.packets picture = .ok packets) (wall : Rtcp.NtpTime) {s : Session}
    (hs : s ∈ h.sessions) :
    let sent := (Delivery.sendAll (Rtp.videoClock picture.time) wall packets h.deliveries
      h.media).1
    Hub.entry? (h.feed picture wall).2 s.conn =
      if Delivery.failedFor sent s then none else some (Delivery.settle sent s) := by
  intro sent
  rw [feed_eq hd hp]
  have hn' : ({ h with media := (Delivery.sendAll (Rtp.videoClock picture.time) wall packets
      h.deliveries h.media).2 } : Hub).Numbered := ⟨hn.nodup, hn.below⟩
  exact hn'.entry?_conclude sent hs

/-- An entry that nothing is delivered to is as it was after a picture. -/
theorem Numbered.entry?_feed_of_none {h : Hub} (hn : h.Numbered) {s : Session}
    (hs : s ∈ h.sessions) (hof : Delivery.ofSession? s = none) (picture : Picture)
    (wall : Rtcp.NtpTime) : Hub.entry? (h.feed picture wall).2 s.conn = some s := by
  rcases hp : h.packetizer.packets picture with fault | packets
  · rw [feed_eq_self (Or.inr ⟨fault, hp⟩)]
    exact hn.entry?_conn hs
  by_cases hd : h.deliveries = []
  · rw [feed_eq_self (Or.inl hd)]
    exact hn.entry?_conn hs
  rw [hn.entry?_feed hd hp wall hs]
  have hnone := hn.conn_ne_of_ofSession? hs hof
  have hfind : (Delivery.sendAll (Rtp.videoClock picture.time) wall packets h.deliveries
      h.media).1.find? (Delivery.concerns s) = none := by
    refine Delivery.find?_concerns_eq_none fun d hd hconn => ?_
    have hmem : d.conn ∈ h.deliveries.map (·.conn) :=
      Delivery.map_conn_sendAll (Rtp.videoClock picture.time) wall packets h.deliveries h.media ▸
        List.mem_map_of_mem hd
    obtain ⟨e, he, heq⟩ := List.mem_map.mp hmem
    exact hnone e he (heq.trans hconn)
  rw [Delivery.failedFor, Delivery.settle, hfind]
  rfl

section Isolated

variable {R : Bytes → Bytes → Prop} {h h' : Hub} {s : Session} {id : TransportId}

/-- Media that are alike stay so when entries go, if the entry that they are alike for goes in both
or in neither. -/
theorem Apart.alike_gone (hh : h.Apart) (hh' : h'.Apart) (hs : s ∈ h.sessions)
    (hs' : s ∈ h'.sessions) (hid : Holds s id) {p p' : Session → Bool} (hp : p' s = p s)
    {m n : Media} (halike : Media.Alike R id s.outlet m n) :
    Media.Alike R id s.outlet ((h.sessions.filter p).foldl (letGo fun _ => false) m)
      ((h'.sessions.filter p').foldl (letGo fun _ => false) n) := by
  refine ⟨?_, ?_, ?_⟩
  · rw [hh.transports_gone p m hs hid, hh'.transports_gone p' n hs' hid, hp]
    split
    · rcases rel_cases halike.transport with ⟨hm, hn⟩ | ⟨t, u, hm, hn, htu⟩
      · rw [hm, hn]
        exact .none
      · rw [hm, hn]
        exact .some ⟨by rw [htu.rest], htu.carried⟩
    · exact halike.transport
  · rw [hh.outlets_gone p m hs, hh'.outlets_gone p' n hs', hp]
    split
    · rcases rel_cases halike.outlet with ⟨hm, hn⟩ | ⟨o, q, hm, hn, hoq⟩
      · rw [hm, hn]
        exact .none
      · rw [hm, hn]
        exact .some ⟨by rw [hoq.rest], hoq.written⟩
    · exact halike.outlet
  · rw [(ports_letGoAll _ _ m).2, (ports_letGoAll _ _ n).2, halike.linkFault]

/-- **Sessions are isolated.**  If an entry that plays is in two hubs, and its transport, its outlet
and the link are alike in both, then a picture has the same effect on the entry in both, and alike
effects on its transport and its outlet.  What else is in the hubs does not matter. -/
theorem Apart.isolated (hsize : ∀ p q, R p q → p.length = q.length) (hh : h.Apart)
    (hh' : h'.Apart) (hpacketizer : h'.packetizer = h.packetizer) (hs : s ∈ h.sessions)
    (hs' : s ∈ h'.sessions) (hplaying : s.isPlaying = true) (hid : Holds s id)
    (halike : Media.Alike R id s.outlet h.media h'.media) (picture : Picture)
    (wall wall' : Rtcp.NtpTime)
    (hwall : ∀ r : Rtcp.SenderReport,
      R { r with ntp := wall }.write { r with ntp := wall' }.write) :
    Hub.entry? (h'.feed picture wall').2 s.conn = Hub.entry? (h.feed picture wall).2 s.conn ∧
      Media.Alike R id s.outlet (h.feed picture wall).2.media (h'.feed picture wall').2.media := by
  rcases hp : h.packetizer.packets picture with fault | packets
  · rw [feed_eq_self (Or.inr ⟨fault, hp⟩), feed_eq_self (Or.inr ⟨fault, hpacketizer ▸ hp⟩),
      hh.entry?_conn hs, hh'.entry?_conn hs']
    exact ⟨rfl, halike⟩
  obtain ⟨d, hof⟩ : ∃ d, Delivery.ofSession? s = some d := by
    rw [Delivery.ofSession?, if_pos hplaying, show s.stream.transport = some id from hid]
    exact ⟨_, rfl⟩
  obtain rfl : id = d.transport :=
    Option.some.inj ((show s.stream.transport = some id from hid).symm.trans
      (Delivery.of_ofSession? hof).2.1)
  have hd : h.deliveries ≠ [] := List.ne_nil_of_mem (mem_deliveries.mpr ⟨s, hs, hof⟩)
  have hd' : h'.deliveries ≠ [] := List.ne_nil_of_mem (mem_deliveries.mpr ⟨s, hs', hof⟩)
  rw [hh.entry?_feed hd hp wall hs, hh'.entry?_feed hd' (hpacketizer ▸ hp) wall' hs', feed_eq hd hp,
    feed_eq hd' (hpacketizer ▸ hp)]
  generalize Rtp.videoClock picture.time = clock
  -- the delivery to the entry is the same in both hubs
  obtain ⟨hsame, hsent⟩ := Delivery.alike_send hsize halike (hh.writes s hs _ hid) clock
    (hwall (d.senderReport clock wall)) packets
  have hfind : (Delivery.sendAll clock wall' packets h'.deliveries h'.media).1.find?
      (Delivery.concerns s) =
      (Delivery.sendAll clock wall packets h.deliveries h.media).1.find? (Delivery.concerns s) := by
    rw [hh.find?_sent clock wall packets hs, hh'.find?_sent clock wall' packets hs', hof,
      Option.map_some, Option.map_some, hsame]
  obtain ⟨hfailed, hsettle⟩ := Delivery.verdict_eq hfind
  constructor
  · rw [hfailed, hsettle]
  · refine hh.alike_gone hh' hs hs' hid hfailed ?_
    -- what was sent to the others does not show here
    have hall := (Delivery.sendAll_parallel clock wall packets hh.disjoint).2
    have hall' := (Delivery.sendAll_parallel clock wall' packets hh'.disjoint).2
    obtain ⟨htransport, houtlet⟩ := hall.own d (mem_deliveries.mpr ⟨s, hs, hof⟩)
    obtain ⟨htransport', houtlet'⟩ := hall'.own d (mem_deliveries.mpr ⟨s, hs', hof⟩)
    rw [hh.outletFor_eq hs hof] at houtlet
    rw [hh'.outletFor_eq hs' hof] at houtlet'
    refine ⟨?_, ?_, ?_⟩
    · rw [htransport, htransport']
      exact hsent.transport
    · rw [houtlet, houtlet']
      exact hsent.outlet
    · rw [hall.linkFault, hall'.linkFault, halike.linkFault]

end Isolated

/-- An entry that gets nothing is left alone, with its transport and its outlet. -/
theorem Apart.feed_of_idle {h : Hub} (hh : h.Apart) {s : Session} (hs : s ∈ h.sessions)
    (hidle : s.isPlaying = false) (picture : Picture) (wall : Rtcp.NtpTime) :
    Hub.entry? (h.feed picture wall).2 s.conn = some s ∧
      (∀ id, Holds s id →
        (h.feed picture wall).2.media.transports[id]? = h.media.transports[id]?) ∧
      (h.feed picture wall).2.media.outlets[s.outlet]? = h.media.outlets[s.outlet]? := by
  by_cases hd : h.deliveries = []
  · rw [feed_eq_self (Or.inl hd), hh.entry?_conn hs]
    exact ⟨rfl, fun _ _ => rfl, rfl⟩
  rcases hp : h.packetizer.packets picture with fault | packets
  · rw [feed_eq_self (Or.inr ⟨fault, hp⟩), hh.entry?_conn hs]
    exact ⟨rfl, fun _ _ => rfl, rfl⟩
  rw [hh.entry?_feed hd hp wall hs, feed_eq hd hp]
  generalize Rtp.videoClock picture.time = clock
  have hof : Delivery.ofSession? s = none := by simp [Delivery.ofSession?, hidle]
  have hfind : (Delivery.sendAll clock wall packets h.deliveries h.media).1.find?
      (Delivery.concerns s) = none := by
    rw [hh.find?_sent clock wall packets hs, hof, Option.map_none]
  have hkept : Delivery.failedFor (Delivery.sendAll clock wall packets h.deliveries h.media).1 s =
      false := by
    rw [Delivery.failedFor, hfind]
    rfl
  have hall := (Delivery.sendAll_parallel clock wall packets hh.disjoint).2
  refine ⟨?_, fun id hid => ?_, ?_⟩
  · rw [hkept, Delivery.settle, hfind]
    rfl
  · refine (hh.transports_gone _ _ hs hid).trans ?_
    rw [hkept]
    refine hall.transports id fun d hd' hsame => ?_
    obtain ⟨t, ht, hoft⟩ := mem_deliveries.mp hd'
    have htid : Holds t id := hsame ▸ (Delivery.of_ofSession? hoft).2.1
    rw [hh.eq_of_conn ht hs (hh.transports t ht s hs id htid hid), hof] at hoft
    cases hoft
  · refine (hh.outlets_gone _ _ hs).trans ?_
    rw [hkept]
    refine hall.outlets s.outlet fun d hd' hsame => ?_
    obtain ⟨t, ht, hoft⟩ := mem_deliveries.mp hd'
    rw [hh.outletFor_eq ht hoft] at hsame
    rw [List.inj_on_of_nodup_map hh.outlets ht hs hsame, hof] at hoft
    cases hoft

/-! ### In another order -/

/-- What is reported if nobody plays. -/
theorem fst_feed_of_nobody {h : Hub} {picture : Picture} (hd : h.deliveries = [])
    (wall : Rtcp.NtpTime) : (h.feed picture wall).1 = .ok {} := by
  unfold feed
  rw [hd]

/-- What is reported if the picture cannot be cut. -/
theorem fst_feed_of_uncut {h : Hub} {picture : Picture} {fault : Fault} (hd : h.deliveries ≠ [])
    (hp : h.packetizer.packets picture = .error fault) (wall : Rtcp.NtpTime) :
    (h.feed picture wall).1 = .error fault := by
  unfold feed
  split
  · next he => exact absurd he hd
  · rw [hp]

/-- What is reported when packets have gone out. -/
theorem fst_feed_eq {h : Hub} {picture : Picture} {packets : List Bytes} (hd : h.deliveries ≠ [])
    (hp : h.packetizer.packets picture = .ok packets) (wall : Rtcp.NtpTime) :
    (h.feed picture wall).1 =
      let sent := (Delivery.sendAll (Rtp.videoClock picture.time) wall packets h.deliveries
        h.media).1
      .ok ⟨sent.length, Delivery.totalSent sent,
        (h.sessions.filter (Delivery.failedFor sent)).length⟩ := by
  unfold feed
  split
  · next he => exact absurd he hd
  · rw [hp]
    show Except.ok (FeedReport.mk _ _ (List.map _ _).length) = _
    rw [List.length_map]

/-- In which order entries stand does not matter for finding one. -/
theorem Numbered.entry?_perm {h : Hub} (hn : h.Numbered) {sessions : List Session}
    (hp : sessions.Perm h.sessions) (conn : ConnId) :
    Hub.entry? { h with sessions } conn = h.entry? conn := by
  have hn' : ({ h with sessions } : Hub).Numbered :=
    ⟨(hp.map _).symm.nodup hn.nodup, fun s hs => hn.below s (hp.subset hs)⟩
  rcases he : h.entry? conn with - | s
  · exact List.find?_eq_none.mpr fun s hs => List.find?_eq_none.mp he s (hp.subset hs)
  · obtain ⟨hs, rfl⟩ := mem_of_entry_eq he
    exact hn'.entry?_conn (hp.symm.subset hs)

/-- **The order of the entries does not matter.**  If the same entries stand in another order, a
picture has the same effect on everything but the order, and the same is reported. -/
theorem Apart.feed_perm {h : Hub} (hh : h.Apart) {sessions : List Session}
    (hp : sessions.Perm h.sessions) (picture : Picture) (wall : Rtcp.NtpTime) :
    (({ h with sessions } : Hub).feed picture wall).1 = (h.feed picture wall).1 ∧
      ∃ after, after.Perm (h.feed picture wall).2.sessions ∧
        (({ h with sessions } : Hub).feed picture wall).2 =
          { (h.feed picture wall).2 with sessions := after } := by
  have hdeliveries : ({ h with sessions } : Hub).deliveries.Perm h.deliveries := hp.filterMap _
  by_cases hd : h.deliveries = []
  · have hd' : ({ h with sessions } : Hub).deliveries = [] := (hd ▸ hdeliveries).eq_nil
    rw [feed_eq_self (Or.inl hd), feed_eq_self (Or.inl hd'), fst_feed_of_nobody hd,
      fst_feed_of_nobody hd']
    exact ⟨rfl, sessions, hp, rfl⟩
  have hd' : ({ h with sessions } : Hub).deliveries ≠ [] := fun he =>
    hd (he ▸ hdeliveries).symm.eq_nil
  rcases hcut : h.packetizer.packets picture with fault | packets
  · rw [feed_eq_self (Or.inr ⟨fault, hcut⟩),
      feed_eq_self (h := { h with sessions }) (Or.inr ⟨fault, hcut⟩), fst_feed_of_uncut hd hcut,
      fst_feed_of_uncut (h := { h with sessions }) hd' hcut]
    exact ⟨rfl, sessions, hp, rfl⟩
  rw [fst_feed_eq hd hcut, fst_feed_eq (h := { h with sessions }) hd' hcut, feed_eq hd hcut,
    feed_eq (h := { h with sessions }) hd' hcut]
  generalize Rtp.videoClock picture.time = clock
  obtain ⟨hsent, hmedia⟩ :=
    Delivery.sendAll_perm clock wall packets hh.disjoint
      hdeliveries
  -- every entry finds the same delivery
  have hfind : ∀ s, (Delivery.sendAll clock wall packets ({ h with sessions } : Hub).deliveries
      h.media).1.find? (Delivery.concerns s) =
      (Delivery.sendAll clock wall packets h.deliveries h.media).1.find? (Delivery.concerns s) := by
    refine Delivery.find?_concerns_perm hsent ?_
    rw [Delivery.map_conn_sendAll]
    exact hh.nodup_deliveries
  have hfailed := funext fun s => (Delivery.verdict_eq (hfind s)).1
  have hsettle := funext fun s => (Delivery.verdict_eq (hfind s)).2
  constructor
  · show Except.ok _ = Except.ok _
    rw [hfailed, hsent.length_eq, Delivery.totalSent_perm hsent, (hp.filter _).length_eq]
  · refine ⟨_, (hp.filter _).map _, ?_⟩
    simp only [conclude, evict, hfailed, hsettle, hmedia, letGoAll_perm (hp.filter _)]

/-! ### After any run -/

/-- Every connection has a writer of its own: an interleaved transport that is bound to an entry
writes to the outlet of that entry. -/
def OwnWriters (h : Hub) : Prop :=
  ∀ s ∈ h.sessions, ∀ id ∈ s.stream.transport, h.media.Writes id s.outlet

instance (h : Hub) : Decidable h.OwnWriters :=
  inferInstanceAs (Decidable (∀ s ∈ h.sessions, ∀ id ∈ s.stream.transport, _))

/-- In a run no two connections have the same transport or outlet. -/
theorem Owned.toApart {h : Hub} (hn : h.Numbered) (hh : h.Owned) (hhoused : h.Housed)
    (hwriters : h.OwnWriters) : h.Apart :=
  ⟨hn, hhoused.nodup, hh.apart, hwriters⟩

/-- An entry that plays has a transport. -/
theorem Coherent.holds_of_playing {h : Hub} (hh : h.Coherent) {s : Session} (hs : s ∈ h.sessions)
    (hplaying : s.isPlaying = true) : ∃ id, Holds s id := by
  have hphase : s.phase = .playing := by simpa [Session.isPlaying] using hplaying
  refine Option.ne_none_iff_exists'.mp fun hnone => ?_
  rw [(hh s hs).init_iff.mpr ((hh s hs).bound_iff.mpr hnone)] at hphase
  cases hphase

section Opened

variable (settings : Settings) (authenticator : Option Authenticator)
  (packetizer : Jpeg.Packetizer) (entropy : Entropy) (ports : PortPool) (linkFault : Option Text)

/-- **A picture reaches every session as if it were the only one.**  After any run of a hub that was
opened without connections, if every connection has a writer of its own, then whatever picture is
sent:

* what becomes of an entry that plays is what would become of it alone, even if the picture were
  sent at another time; and then its transport and its outlet differ at most in the time that a
  sender report tells, and in nothing if the time is the same;
* if the same entries stand in another order, the same is reported, every transport and outlet
  ends up the same, and so does the entry of every connection, and nothing but the order differs;
* an entry that does not play stays as it is, and so do its transport and its outlet. -/
theorem picture_isolated (operations : List Operation)
    (hwriters : OwnWriters
      ((opened settings authenticator packetizer entropy ports linkFault).run operations))
    (picture : Picture) (wall : Rtcp.NtpTime) :
    let h := (opened settings authenticator packetizer entropy ports linkFault).run operations
    let after := (h.feed picture wall).2
    (∀ s ∈ h.sessions, s.isPlaying = true → ∃ id, s.stream.transport = some id ∧
      ∀ wall', let alone := (({ h with sessions := [s] } : Hub).feed picture wall').2
        after.entry? s.conn = alone.entry? s.conn ∧
        Media.Alike SameButTime id s.outlet alone.media after.media ∧
        (wall' = wall → after.media.transports[id]? = alone.media.transports[id]? ∧
          after.media.outlets[s.outlet]? = alone.media.outlets[s.outlet]?)) ∧
    (∀ sessions : List Session, sessions.Perm h.sessions →
      let other : Hub := { h with sessions }
      (other.feed picture wall).1 = (h.feed picture wall).1 ∧
        (other.feed picture wall).2.media = after.media ∧
        (∀ conn, Hub.entry? (other.feed picture wall).2 conn = after.entry? conn) ∧
        ∃ l, l.Perm after.sessions ∧
          (other.feed picture wall).2 = { after with sessions := l }) ∧
    ∀ s ∈ h.sessions, s.isPlaying = false → after.entry? s.conn = some s ∧
      (∀ id, s.stream.transport = some id →
        after.media.transports[id]? = h.media.transports[id]?) ∧
      after.media.outlets[s.outlet]? = h.media.outlets[s.outlet]? := by
  intro h after
  have hn₀ := numbered_opened settings authenticator packetizer entropy ports linkFault
  have hn : h.Numbered := numbered_run hn₀ operations
  have howned : h.Owned :=
    (owned_opened settings authenticator packetizer entropy ports linkFault).run hn₀ operations
  have hcoherent : h.Coherent :=
    (coherent_opened settings authenticator packetizer entropy ports linkFault).run hn₀ operations
  have hh : h.Apart := howned.toApart hn
    (housed_run settings authenticator packetizer entropy ports linkFault operations) hwriters
  refine ⟨?_, ?_, fun s hs hidle => hh.feed_of_idle hs hidle picture wall⟩
  · intro s hs hplaying
    obtain ⟨id, hid⟩ := hcoherent.holds_of_playing hs hplaying
    refine ⟨id, hid, ?_⟩
    intro wall' alone
    have halone : ({ h with sessions := [s] } : Hub).Apart :=
      hh.sublist (List.singleton_sublist.mpr hs)
    have hself : s ∈ ({ h with sessions := [s] } : Hub).sessions := List.mem_singleton_self s
    obtain ⟨hentry, halike⟩ := halone.isolated (fun _ _ hr => hr.1) hh rfl hself hs hplaying hid
      (.of_eq rfl rfl rfl) picture wall' wall
      fun r => Rtcp.SenderReport.sameButTime_write { r with ntp := wall' } wall
    refine ⟨hentry, halike, ?_⟩
    rintro rfl
    exact (halone.isolated (fun _ _ he => congrArg List.length he) hh rfl hself hs hplaying hid
      (.of_eq rfl rfl rfl) picture _ _ fun _ => rfl).2.eq
  · intro sessions hp other
    obtain ⟨hreport, l, hl, hafter⟩ := hh.feed_perm hp picture wall
    have hnafter : after.Numbered := hn.changes (changes_feed h Session.revised_settle picture wall)
    refine ⟨hreport, ?_, fun conn => ?_, l, hl, hafter⟩
    · rw [hafter]
    · rw [hafter]
      exact hnafter.entry?_perm hl conn

end Opened

/-- Two connections: the transport of one takes no data, the other one's writes to its outlet. -/
def oneBroken : List Operation :=
  let peer : SocketAddress := ⟨.v4 127 0 0 1, 4000, 0⟩
  [.connect peer {} 0, .connect peer {} 0, .incident (.made (.memory .udp (some 0) false)),
    .incident (.made (.interleaved 1 ⟨0, 1⟩)), .setUp 1 0, .setUp 2 1,
    .play (Entropy.sessionName 0), .play (Entropy.sessionName 1)]

theorem broken_one_alone_goes :
    let packetizer : Jpeg.Packetizer := { mtu_pos := Nat.succ_pos 1399 }
    let entropy : Entropy := ⟨UInt16.ofNat, UInt32.ofNat, UInt64.ofNat, 0, 0, 0⟩
    let h := (opened {} none packetizer entropy {} none).run oneBroken
    let after := (h.feed Jpeg.tinyPicture ⟨0, 0⟩).2
    h.OwnWriters ∧ (h.feed Jpeg.tinyPicture ⟨0, 0⟩).1 = .ok ⟨2, 1, 1⟩ ∧
      ∀ s ∈ h.sessions, s.isPlaying = true →
        after.entry? s.conn =
          Hub.entry? (({ h with sessions := [s] } : Hub).feed Jpeg.tinyPicture ⟨0, 0⟩).2 s.conn := by
  intro packetizer entropy h after
  have hwriters : h.OwnWriters := by decide
  have hcut : h.packetizer.packets Jpeg.tinyPicture =
      .ok [Jpeg.packet packetizer Jpeg.tinyPicture [] 0 true [7]] := by
    have hsame : h.packetizer = packetizer :=
      packetizer_run (numbered_opened {} none packetizer entropy {} none) oneBroken
    rw [hsame]
    exact Jpeg.packets_tinyPicture
  refine ⟨hwriters, ?_, fun s hs hplaying => ?_⟩
  · rw [fst_feed_eq (by decide) hcut]
    decide
  · obtain ⟨_, _, halone⟩ := (picture_isolated {} none packetizer entropy {} none oneBroken hwriters
      Jpeg.tinyPicture ⟨0, 0⟩).1 s hs hplaying
    exact (halone ⟨0, 0⟩).1

end Hub

end RtspServer
