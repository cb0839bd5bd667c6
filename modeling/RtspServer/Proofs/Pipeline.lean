/-
RtspServer/Proofs/Pipeline.lean

A control connection on which a client sends items one after the other, without
waiting for responses.  The stream of their octets does what the items do in
order (`Hub.converse_append`): four readers share the stream, and each takes off
exactly what belongs to its item.

Once a response has closed the connection, nothing that follows has an effect.
Until then, as long as the outlet takes what is written, every request gets one
response, in order (`Hub.written_takeAll`).  Nothing else is written in between,
because answering a connection leaves its own outlet alone (`Hub.Spares`).  After
any run, an outlet that is open and takes any number of writes is such an outlet:
no other connection shares it (`Hub.accepts_run`).
-/
import RtspServer.Proofs.Answering
import RtspServer.Proofs.Item
import RtspServer.Proofs.Outlets

namespace RtspServer

namespace Hub

/-! ### Items in order -/

/-- Deal with items one after the other, until one ends the connection. -/
def takeAll (h : Hub) (c : Client) (now : Nat) : List Item → Except Departure Client × Hub
  | [] => (.ok c, h)
  | item :: rest =>
    match h.take c now item with
    | (.error departure, h) => (.error departure, h)
    | (.ok c, h) => h.takeAll c now rest

/-- One message, and then the rest of the stream. -/
theorem converse_eq (h : Hub) (c : Client) (now : Nat) (input : Bytes) :
    h.converse c now none input =
      match h.exchange c now input with
      | (.error departure, h) => (departure, h)
      | (.ok (c, rest), h) => h.converse c now none rest := by
  rw [converse, if_neg nofun]
  split
  · next he => rw [he]
  · next he =>
    rw [he]
    rfl

/-- **Items are dealt with one by one**: the stream of their octets, and whatever follows it, does
what the items do in order, and then what follows, unless one of them ends the connection. -/
theorem converse_append {items : List Item} (hitems : ∀ item ∈ items, item.Fits) (h : Hub)
    (c : Client) (now : Nat) (more : Bytes) :
    h.converse c now none (items.flatMap Item.octets ++ more) =
      match h.takeAll c now items with
      | (.error departure, h) => (departure, h)
      | (.ok c, h) => h.converse c now none more := by
  induction items generalizing h c with
  | nil => rfl
  | cons item rest ih =>
    have hitem := hitems item List.mem_cons_self
    have hrest : ∀ item ∈ rest, item.Fits := fun i hi => hitems i (List.mem_cons_of_mem _ hi)
    rw [List.flatMap_cons, List.append_assoc, converse_eq, exchange_octets hitem, takeAll]
    rcases h.take c now item with ⟨_ | c', h'⟩
    · rfl
    · exact ih hrest h' c'

/-- A stream that has ended ends the connection. -/
theorem converse_nil (h : Hub) (c : Client) (now : Nat) :
    h.converse c now none [] = (.closedByClient, h) := by
  rw [converse_eq]
  rfl

/-! ### What an answer leaves alone -/

/-- `h'` comes from `h` by the doing of one connection: no entry is new, and outlets that belong to
no other connection are as they were. -/
structure Spares (conn : ConnId) (h h' : Hub) : Prop where
  sessions : ∀ t ∈ h'.sessions, ∃ s ∈ h.sessions, s.conn = t.conn ∧ s.outlet = t.outlet
  outlets : ∀ id, (∀ s ∈ h.sessions, s.outlet = id → s.conn = conn) →
    h'.media.outlets[id]? = h.media.outlets[id]?

theorem Spares.of_eq {conn : ConnId} {h h' : Hub}
    (hs : ∀ t ∈ h'.sessions, ∃ s ∈ h.sessions, s.conn = t.conn ∧ s.outlet = t.outlet)
    (hm : h'.media.outlets = h.media.outlets) : Spares conn h h' :=
  ⟨hs, fun _ _ => by rw [hm]⟩

theorem Spares.refl (conn : ConnId) (h : Hub) : Spares conn h h :=
  .of_eq (fun t ht => ⟨t, ht, rfl, rfl⟩) rfl

theorem Spares.trans {conn : ConnId} {a b c : Hub} (hab : Spares conn a b)
    (hbc : Spares conn b c) : Spares conn a c := by
  refine ⟨fun t ht => ?_, fun id hid => ?_⟩
  · obtain ⟨s, hs, hsconn, hsoutlet⟩ := hbc.sessions t ht
    obtain ⟨u, hu, huconn, huoutlet⟩ := hab.sessions s hs
    exact ⟨u, hu, huconn.trans hsconn, huoutlet.trans hsoutlet⟩
  · rw [hbc.outlets id fun t ht htid => ?_, hab.outlets id hid]
    obtain ⟨s, hs, hconn, houtlet⟩ := hab.sessions t ht
    exact hconn ▸ hid s hs (houtlet.trans htid)

theorem spares_touch (conn : ConnId) (h : Hub) (peer : SocketAddress) (now : Nat) :
    Spares conn h (h.touch peer now) := by
  refine .of_eq (fun t ht => ?_) rfl
  obtain ⟨s, hs, rfl⟩ := List.mem_map.mp ht
  refine ⟨s, hs, ?_⟩
  split <;> exact ⟨rfl, rfl⟩

theorem spares_update (conn : ConnId) (h : Hub) (other : ConnId) {f : Session → Session}
    (hf : ∀ s, (f s).conn = s.conn ∧ (f s).outlet = s.outlet) :
    Spares conn h (h.update other f) := by
  refine .of_eq (fun t ht => ?_) rfl
  obtain ⟨s, hs, rfl⟩ := List.mem_map.mp ht
  refine ⟨s, hs, ?_⟩
  split
  · exact ⟨(hf s).1.symm, (hf s).2.symm⟩
  · exact ⟨rfl, rfl⟩

theorem spares_play (conn : ConnId) (h : Hub) (id : Text) : Spares conn h (h.play id).2 := by
  unfold play
  split
  · exact .refl conn h
  · split
    · exact .refl conn h
    · exact spares_update conn h _ fun _ => ⟨rfl, rfl⟩

theorem spares_pause (conn : ConnId) (h : Hub) (id : Text) : Spares conn h (h.pause id).2 := by
  unfold pause
  split
  · exact .refl conn h
  · exact spares_update conn h _ fun _ => ⟨rfl, rfl⟩

theorem spares_setUp (conn : ConnId) (h : Hub) (transport : TransportId) :
    Spares conn h (h.setUp conn transport).2 := by
  unfold setUp
  split
  · exact .refl conn h
  · next m hm =>
    have hout := Media.outlets_start hm
    split
    · exact .of_eq (fun t ht => ⟨t, ht, rfl, rfl⟩) hout
    · next s _ =>
      have hfreed : Spares conn h { h with
          entropy := (idFor h.entropy s).2
          media := stopTransport m s } :=
        .of_eq (fun t ht => ⟨t, ht, rfl, rfl⟩) ((outlets_stopTransport m s).trans hout)
      exact hfreed.trans (spares_update conn _ conn fun _ => ⟨rfl, rfl⟩)

theorem outlets_openTransport? {h : Hub} {c : Client} {offer reply : TransportOffer}
    {id : TransportId} {m : Media} (ho : h.openTransport? c offer = some (id, reply, m)) :
    m.outlets = h.media.outlets := by
  unfold openTransport? at ho
  split at ho
  · cases ho
  split at ho
  · simp only [Option.some.injEq, Prod.mk.injEq] at ho
    obtain ⟨-, -, rfl⟩ := ho
    rfl
  · split at ho
    · cases ho
    split at ho
    · cases ho
    · next hopen =>
      simp only [Option.some.injEq, Prod.mk.injEq] at ho
      obtain ⟨-, -, rfl⟩ := ho
      unfold Media.openDatagrams at hopen
      rcases e : h.media.ports.reserve h.settings.firstPort h.settings.limitPort with _ | ⟨_, _⟩
      · simp [e, bind, Except.bind] at hopen
      · simp only [e, bind, Except.bind, pure, Except.pure, Except.ok.injEq,
          Prod.mk.injEq] at hopen
        obtain ⟨-, -, rfl⟩ := hopen
        rfl

theorem outlets_letGoAll {keepOutlet : Session → Bool} {id : OutletId} {gone : List Session}
    (hgone : ∀ s ∈ gone, s.outlet = id → keepOutlet s = true) (m : Media) :
    (gone.foldl (letGo keepOutlet) m).outlets[id]? = m.outlets[id]? := by
  induction gone generalizing m with
  | nil => rfl
  | cons s rest ih =>
    rw [List.foldl_cons, ih fun t ht => hgone t (List.mem_cons_of_mem _ ht)]
    unfold letGo
    split
    · rw [outlets_stopTransport]
    · next hkeep =>
      -- the outlet that is shut is another one
      have hne : s.outlet ≠ id := fun he => hkeep (hgone s List.mem_cons_self he)
      simp [Media.shut, Media.updateOutlet, hne, outlets_stopTransport]

/-- Tearing down leaves the outlet of the connection that asked alone. -/
theorem spares_teardown (conn : ConnId) (h : Hub) (id : Text) :
    Spares conn h (h.teardown conn id).2 := by
  refine ⟨fun t ht => ⟨t, (List.mem_filter.mp ht).1, rfl, rfl⟩, fun outlet houtlet => ?_⟩
  -- an entry with this outlet is of the connection that asks, whose outlet is kept
  refine outlets_letGoAll (fun s hs he => ?_) h.media
  exact beq_iff_eq.mpr (houtlet s (List.mem_filter.mp hs).1 he)

theorem spares_answer (h : Hub) (c : Client) (r : Request) (now : Nat) :
    Spares c.conn h (h.answer c r now).2.2 := by
  have hsteps : Answering c (Spares c.conn h) := {
    touch := fun h' now hs => hs.trans (spares_touch c.conn h' c.peer now)
    opened := fun _ _ _ _ _ hs ho =>
      hs.trans (.of_eq (fun t ht => ⟨t, ht, rfl, rfl⟩) (outlets_openTransport? ho))
    setUp := fun h' transport hs => hs.trans (spares_setUp c.conn h' transport)
    play := fun h' id hs => hs.trans (spares_play c.conn h' id)
    pause := fun h' id hs => hs.trans (spares_pause c.conn h' id)
    teardown := fun h' id hs => hs.trans (spares_teardown c.conn h' id) }
  exact hsteps.answer (.refl _ h) r now

theorem spares_deliver (h : Hub) (conn : ConnId) (frame : Frame) :
    Spares conn h (h.deliver conn frame).2 := by
  unfold deliver
  split
  · refine .of_eq (fun t ht => ⟨t, ht, rfl, rfl⟩) ?_
    simp only [Media.deliver]
    split <;> rfl
  · exact .refl conn h

end Hub

/-! ### What is written -/

namespace Media

theorem getElem?_updateOutlet {m : Media} {id : OutletId} {o : Outlet}
    (ho : m.outlets[id]? = some o) (f : Outlet → Outlet) :
    (m.updateOutlet id f).outlets[id]? = some (f o) := by
  simp [updateOutlet, ho]

/-- An outlet that is open and takes any number of writes takes the next one. -/
theorem writeOutlet_of_open {m : Media} {id : OutletId} {o : Outlet}
    (ho : m.outlets[id]? = some o) (hshut : o.shut = false) (hbudget : o.budget = none)
    (message : Bytes) :
    m.writeOutlet id message =
      .ok (m.updateOutlet id fun _ => { o with written := message :: o.written }) := by
  have hwrite : o.write message = .ok { o with written := message :: o.written } := by
    simp [Outlet.write, hshut, hbudget]
  rw [writeOutlet, ho]
  simp only [hwrite]
  rfl

end Media

namespace Hub

/-- The outlet of a client takes whatever is written, and belongs to no other connection. -/
structure Accepts (h : Hub) (c : Client) : Prop where
  opened : ∃ o, h.media.outlets[c.outlet]? = some o ∧ o.shut = false ∧ o.budget = none
  own : ∀ s ∈ h.sessions, s.outlet = c.outlet → s.conn = c.conn

theorem Accepts.spares {h h' : Hub} {c : Client} (ha : h.Accepts c)
    (hs : Spares c.conn h h') : h'.Accepts c := by
  refine ⟨?_, fun t ht ho => ?_⟩
  · rw [hs.outlets c.outlet ha.own]
    exact ha.opened
  · obtain ⟨s, hmem, hconn, houtlet⟩ := hs.sessions t ht
    exact hconn ▸ ha.own s hmem (houtlet.trans ho)

/-- In a run a client need only have an outlet that is open and takes any number of writes: no
other connection shares it. -/
theorem accepts_run (settings : Settings) (authenticator : Option Authenticator)
    (packetizer : Jpeg.Packetizer) (entropy : Entropy) (ports : PortPool)
    (linkFault : Option Text) (operations : List Operation) {s : Session} {o : Outlet} :
    let h := (opened settings authenticator packetizer entropy ports linkFault).run operations
    s ∈ h.sessions → h.media.outlets[s.outlet]? = some o → o.shut = false → o.budget = none →
      h.Accepts s.client := by
  intro h hs ho hshut hbudget
  have hh : h.Housed := housed_run ..
  refine ⟨⟨o, ho, hshut, hbudget⟩, fun t ht houtlet => ?_⟩
  have hsame : t = s := List.inj_on_of_nodup_map hh.nodup ht hs houtlet
  rw [hsame]
  rfl

/-- What has been written to an outlet, the last message first. -/
def writtenTo (h : Hub) (id : OutletId) : List Bytes :=
  (h.media.outlets[id]?.map (·.written)).getD []

/-- The response to each request, until the connection ends. -/
def answers (h : Hub) (c : Client) (now : Nat) : List Item → List Response
  | [] => []
  | item :: rest =>
    (match item with
      | .request d => [(h.answer c d.received now).1]
      | _ => []) ++
    match h.take c now item with
    | (.error _, _) => []
    | (.ok c, h) => h.answers c now rest

theorem Spares.writtenTo {conn : ConnId} {h h' : Hub} (hs : Spares conn h h') {id : OutletId}
    (hid : ∀ s ∈ h.sessions, s.outlet = id → s.conn = conn) :
    h'.writtenTo id = h.writtenTo id := by
  rw [Hub.writtenTo, hs.outlets id hid, Hub.writtenTo]

/-- What is written is handed on to the outlet before the connection goes on. -/
theorem respond_of_writeOutlet {h : Hub} {c : Client} {r : Request} {now : Nat} {m : Media}
    (hm : (h.answer c r now).2.2.media.writeOutlet (h.answer c r now).2.1.outlet
      (h.answer c r now).1.wire = .ok m) :
    h.respond c r now =
      (if (h.answer c r now).2.1.closing then .error .afterResponse
        else .ok (h.answer c r now).2.1, { (h.answer c r now).2.2 with media := m }) := by
  unfold respond
  simp only [hm]

/-- A response is written to an outlet that takes it, and the connection goes on unless the client
is to be closed. -/
theorem Accepts.respond {h : Hub} {c : Client} (ha : h.Accepts c) (r : Request) (now : Nat) :
    ∃ after, h.respond c r now =
        (if (h.answer c r now).2.1.closing then .error .afterResponse
          else .ok (h.answer c r now).2.1, after) ∧
      after.Accepts (h.answer c r now).2.1 ∧
      after.writtenTo c.outlet = (h.answer c r now).1.wire :: h.writtenTo c.outlet := by
  have hs := spares_answer h c r now
  obtain ⟨hconn, houtlet⟩ := client_answer h c r now
  obtain ⟨⟨o, ho, hshut, hbudget⟩, hown⟩ := ha.spares hs
  -- the response is put on top of what the outlet has taken before
  let taken : Outlet := { o with written := (h.answer c r now).1.wire :: o.written }
  have hmedia := Media.writeOutlet_of_open ho hshut hbudget (h.answer c r now).1.wire
  have htaken := Media.getElem?_updateOutlet ho fun _ => taken
  have hbefore : h.writtenTo c.outlet = o.written := by
    rw [← hs.writtenTo ha.own, Hub.writtenTo, ho]
    rfl
  refine ⟨_, respond_of_writeOutlet (by rw [houtlet, hmedia]),
    ⟨⟨taken, ?_, hshut, hbudget⟩, ?_⟩, ?_⟩
  · rw [houtlet]
    exact htaken
  · rw [hconn, houtlet]
    exact hown
  · rw [hbefore]
    show (Option.map _ (Media.outlets _)[c.outlet]?).getD [] = _
    rw [htaken]
    rfl

/-- **Every request gets one response, in order**, and nothing else is written; the connection ends
only where a response closes it. -/
theorem written_takeAll (items : List Item) {h : Hub} {c : Client} (ha : h.Accepts c)
    (now : Nat) :
    (∀ departure, (h.takeAll c now items).1 = .error departure → departure = .afterResponse) ∧
      (h.takeAll c now items).2.writtenTo c.outlet =
        ((h.answers c now items).map (·.wire)).reverse ++ h.writtenTo c.outlet := by
  induction items generalizing h c with
  | nil => exact ⟨nofun, rfl⟩
  | cons item rest ih =>
    cases item with
    | frame f =>
      have hs := spares_deliver h c.conn f
      obtain ⟨hdeparture, hwritten⟩ := ih (ha.spares hs)
      exact ⟨hdeparture, hwritten.trans (by rw [hs.writtenTo ha.own]; rfl)⟩
    | blank withReturn => exact ih ha
    | request d =>
      obtain ⟨after, hrespond, ha', hwritten⟩ := ha.respond d.received now
      have houtlet := (client_answer h c d.received now).2
      have htake : h.take c now (.request d) = h.respond c d.received now := rfl
      rw [takeAll, answers, htake, hrespond]
      cases hclosing : (h.answer c d.received now).2.1.closing with
      | true =>
        -- this is the last response, whatever comes after the request
        rw [if_pos rfl]
        exact ⟨fun _ hd => (Except.error.inj hd).symm, hwritten⟩
      | false =>
        rw [if_neg nofun]
        obtain ⟨hdeparture, hrest⟩ := ih ha'
        refine ⟨hdeparture, ?_⟩
        rw [houtlet, hwritten] at hrest
        refine hrest.trans ?_
        simp

/-! ### The stream of items -/

/-- **A pipelined stream is taken apart exactly.**  Let a client send items that can be sent, one
after the other and without waiting.

* The stream of their octets does what the items do in order, and what follows them has an effect
  only if none of them has ended the connection.
* If nothing follows, the connection ends at the end of the stream, or where an item ended it.
* If the outlet of the client takes what is written, the connection ends by the client or after a
  response; and what is written is one response for each request, in order, up to the one that
  closes the connection.
* A request is received with the verb, the address, the version, the offers and the body it was
  sent with, and with its headers in order, but for the Content-Length, which comes last. -/
theorem converse_items {items : List Item} (hitems : ∀ item ∈ items, item.Fits) (h : Hub)
    (c : Client) (now : Nat) :
    (∀ more, h.converse c now none (items.flatMap Item.octets ++ more) =
      match h.takeAll c now items with
      | (.error departure, after) => (departure, after)
      | (.ok client, after) => after.converse client now none more) ∧
    (h.converse c now none (items.flatMap Item.octets) =
      match h.takeAll c now items with
      | (.error departure, after) => (departure, after)
      | (.ok _, after) => (.closedByClient, after)) ∧
    (h.Accepts c →
      let outcome := h.converse c now none (items.flatMap Item.octets)
      (outcome.1 = .closedByClient ∨ outcome.1 = .afterResponse) ∧
      outcome.2.writtenTo c.outlet =
        ((h.answers c now items).map (·.wire)).reverse ++ h.writtenTo c.outlet) ∧
    ∀ d, .request d ∈ items →
      (d.received.method = d.request.method ∧ d.received.target = d.request.target ∧
        d.received.version = d.request.version ∧ d.received.offers? = d.request.offers? ∧
        d.received.body = d.request.body) ∧
      d.received.headers.entries =
        (d.request.headers.entries.filter fun e => !Headers.isContentLength e.1) ++
          Headers.counted d.request.body := by
  have hmore := converse_append hitems h c now
  have hend : h.converse c now none (items.flatMap Item.octets) =
      match h.takeAll c now items with
      | (.error departure, after) => (departure, after)
      | (.ok _, after) => (.closedByClient, after) := by
    -- the end of the stream is the case where nothing follows
    have hnil := hmore []
    rw [List.append_nil] at hnil
    rw [hnil]
    rcases h.takeAll c now items with ⟨_ | _, _⟩
    · rfl
    · exact converse_nil ..
  refine ⟨hmore, hend, fun ha => ?_, fun d _ => ⟨⟨rfl, rfl, rfl, d.offers?_received, rfl⟩, rfl⟩⟩
  obtain ⟨hdeparture, hwritten⟩ := written_takeAll items ha now
  intro outcome
  rw [show outcome = _ from hend]
  rcases htake : h.takeAll c now items with ⟨departure | client, after⟩
  · rw [htake] at hdeparture hwritten
    exact ⟨Or.inr (hdeparture departure rfl), hwritten⟩
  · rw [htake] at hwritten
    exact ⟨Or.inl rfl, hwritten⟩

/-- A blank line, a frame that holds a marker, and a request with a body that looks like a frame. -/
def greeting : List Item :=
  [.blank true,
   .frame ⟨0, [0x24]⟩,
   .request {
     method := .options
     target := ['*']
     headers := [("CSeq".toList, ['1'])]
     body := "$\r\n\r\n".toList }]

/-- A client that has just come in, and the hub it came to. -/
def newcomer : Session × Hub :=
  let packetizer : Jpeg.Packetizer := { mtu_pos := Nat.succ_pos 1399 }
  let entropy : Entropy := ⟨UInt16.ofNat, UInt32.ofNat, UInt64.ofNat, 0, 0, 0⟩
  (opened {} none packetizer entropy {} none).register
    { ip := .v4 127 0 0 1, port := 4000 } {} 0

theorem converse_greeting :
    (∀ item ∈ greeting, item.Fits) ∧ newcomer.2.Accepts newcomer.1.client ∧
      let outcome := newcomer.2.converse newcomer.1.client 0 none (greeting.flatMap Item.octets)
      (outcome.1 = .closedByClient ∨ outcome.1 = .afterResponse) ∧
      outcome.2.writtenTo newcomer.1.client.outlet =
        ((newcomer.2.answers newcomer.1.client 0 greeting).map (·.wire)).reverse ++
          newcomer.2.writtenTo newcomer.1.client.outlet := by
  have hitems : ∀ item ∈ greeting, item.Fits := by
    intro item hitem
    rcases hitem with - | ⟨-, hitem⟩
    · exact trivial
    rcases hitem with - | ⟨-, hitem⟩
    · show 1 ≤ 65535
      decide
    rcases hitem with - | ⟨-, hitem⟩
    · exact {
        target_ne := by decide
        target_solid := Text.isBlank_of_isSolid (by decide)
        headers := by decide
        head := by decide
        body := by decide }
    · cases hitem
  -- the hub is what one connect makes of it
  have haccepts : newcomer.2.Accepts newcomer.1.client :=
    accepts_run {} none _ _ {} none [.connect newcomer.1.peer {} 0]
      (List.mem_singleton_self newcomer.1) rfl rfl rfl
  obtain ⟨-, -, hanswered, -⟩ := converse_items hitems newcomer.2 newcomer.1.client 0
  exact ⟨hitems, haccepts, hanswered haccepts⟩

end Hub

end RtspServer
