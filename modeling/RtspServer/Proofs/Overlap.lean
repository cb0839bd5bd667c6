/-
RtspServer/Proofs/Overlap.lean

What requests lose that are answered while a picture is on its way, and what
they do not lose.  The counters of an entry are noted when a picture departs and
put back when it has arrived, and both look at the transport of the entry.

* PLAY makes a sender report due.  A picture that was already on its way then
  and arrives at the same transport puts back what it had noted, and the report
  is forgotten (`Live.updates_lost`).  If no such picture arrives, the report is
  written before any packet of a picture that departs later.
* A transport that is bound while a picture is on its way keeps the counters of
  that picture from being put back, so its numbers are used again.  If every
  picture that arrives finds the transport that it was written to, the numbers
  go on without a gap (`Live.overlap`).
-/
import RtspServer.Proofs.Flight

namespace RtspServer

namespace Hub

/-- Where the entry of a connection that was there comes from if nothing was fed: its counters are
the same, and a report that was due is due. -/
theorem entry_before {h h' : Hub} (hn : h.Numbered) (hc : Changes Session.Untouched h h')
    {t : Session} (ht : t ∈ h'.sessions) (hold : t.conn < h.nextConn) :
    ∃ s ∈ h.sessions, s.conn = t.conn ∧ t.stream.ssrc = s.stream.ssrc ∧
      t.stream.counters = s.stream.counters ∧
      (s.stream.reportDue = true → t.stream.reportDue = true) := by
  refine hc.origin (Q := fun s t => t.stream.ssrc = s.stream.ssrc ∧
      t.stream.counters = s.stream.counters ∧
      (s.stream.reportDue = true → t.stream.reportDue = true))
    (fun _ _ hu => hu.toRevised) .refl (fun s t hu => ⟨hu.ssrc, ?_, hu.reportDue⟩)
    (fun _ _ _ => ⟨rfl, rfl, fun hdue => hdue⟩) ?_ hn ht hold
  · simp only [Stream.counters, hu.sequence, hu.packetCount, hu.octetCount]
  · rintro a b c ⟨hssrc, hcounters, hdue⟩ ⟨hssrc', hcounters', hdue'⟩
    exact ⟨hssrc'.trans hssrc, hcounters'.trans hcounters, fun h => hdue' (hdue h)⟩

end Hub

namespace Live

variable {s s' : Live} {conn : ConnId} {mv : Move} {x : Option Sending}

/-- A write moves no leg to another connection. -/
theorem conn_ne_of_step {f : Flight} {done rest : List Leg} {l l' : Leg}
    (hflight : s.flight = some f) (hlegs : f.legs = done ++ l :: rest) (hstep : l.Step x l')
    (hnone : ∀ y ∈ done ++ l' :: rest, y.delivery.conn ≠ conn) :
    ∀ f' ∈ s.flight, ∀ y ∈ f'.legs, y.delivery.conn ≠ conn := by
  intro f' hf' y hy
  obtain rfl := Option.some.inj (hflight.symm.trans hf')
  rw [hlegs] at hy
  rcases List.mem_append.mp hy with hy | hy
  · exact hnone y (List.mem_append_left _ hy)
  rcases List.mem_cons.mp hy with rfl | hy
  · exact hstep.delivery.1 ▸ hnone l' (List.mem_append_right _ List.mem_cons_self)
  · exact hnone y (List.mem_append_right _ (List.mem_cons_of_mem _ hy))

/-! ### The report that PLAY asks for -/

/-- A sender report is due for a connection, as long as it lives. -/
structure Owed (conn : ConnId) (s : Live) : Prop where
  below : conn < s.hub.nextConn
  due : ∀ t ∈ s.hub.sessions, t.conn = conn → t.stream.reportDue = true

/-- Would the counters of an entry be put back if the picture on its way arrived now? -/
def Reaches (s : Live) (conn : ConnId) : Prop :=
  ∃ f ∈ s.flight, ∃ l ∈ f.legs, ∃ t ∈ s.hub.sessions, t.conn = conn ∧
    Delivery.concerns t l.delivery = true

/-- A report that is due stays due, unless a picture arrives at the entry. -/
theorem Owed.turn (hs : s.Sound) (h : Owed conn s) (ht : Turn conn s mv x s')
    (hmiss : mv = .arrive → ¬s.Reaches conn) : Owed conn s' := by
  cases ht with
  | idle => exact h
  | operation o hquiet hchanges =>
    refine ⟨Nat.lt_of_lt_of_le h.below (Hub.Changes.nextConn_le hchanges), fun t ht hconn => ?_⟩
    obtain ⟨u, hu, huconn, -, -, hdue⟩ :=
      Hub.entry_before hs.toNumbered hchanges ht (hconn ▸ h.below)
    exact hdue (h.due u hu (huconn.trans hconn))
  | depart picture hnone horder hcut => exact ⟨h.below, h.due⟩
  | write wall hflight hlegs hnext hstep => exact ⟨h.below, h.due⟩
  | @arrive f hflight hdone =>
    refine ⟨h.below, fun t ht hconn => ?_⟩
    obtain ⟨u, hu, huconn, -, rfl⟩ := Hub.of_mem_conclude ht
    have hnone : (f.legs.map (·.delivery)).find? (Delivery.concerns u) = none := by
      refine List.find?_eq_none.mpr fun d hd hconcerns => hmiss rfl ?_
      obtain ⟨l, hl, rfl⟩ := List.mem_map.mp hd
      exact ⟨f, hflight, l, hl, u, hu, huconn.trans hconn, hconcerns⟩
    rw [Delivery.settle, hnone]
    exact h.due u hu (huconn.trans hconn)

/-- A sender report is due for a connection, and the picture on its way has sent it nothing. -/
structure Withheld (conn : ConnId) (s : Live) : Prop extends Owed conn s where
  legs : ∀ f ∈ s.flight, ∀ l ∈ f.legs, l.delivery.conn = conn →
    l.begun = false ∧ l.delivery.reportDue = true

/-- If a report is due, the next write to the connection is a report. -/
theorem Withheld.turn (hs : s.Sound) (h : Withheld conn s) (ht : Turn conn s mv x s') :
    (∃ taken, x = some (.report taken)) ∨ (x = none ∧ Withheld conn s') := by
  have howed : (mv = .arrive → ¬s.Reaches conn) → Owed conn s' := h.toOwed.turn hs ht
  cases ht with
  | idle => exact Or.inr ⟨rfl, h⟩
  | operation o hquiet hchanges => exact Or.inr ⟨rfl, howed nofun, h.legs⟩
  | depart picture hnone horder hcut =>
    refine Or.inr ⟨rfl, howed nofun, ?_⟩
    rintro f ⟨⟩ l hl hconn
    obtain ⟨d, hd, rfl⟩ := List.mem_map.mp hl
    obtain ⟨t, ht, hof⟩ := Hub.mem_deliveries.mp (horder.subset hd)
    refine ⟨rfl, (Delivery.reportDue_of_ofSession? hof).trans (h.due t ht ?_)⟩
    exact (Delivery.of_ofSession? hof).1.symm.trans hconn
  | @write wall f done l l' rest x m hflight hlegs hnext hstep =>
    have hmem : l ∈ f.legs := hlegs ▸ List.mem_append_right _ List.mem_cons_self
    by_cases hconn : l.delivery.conn = conn
    · rw [if_pos hconn]
      obtain ⟨hbegun, hdue⟩ := h.legs f hflight l hmem hconn
      -- the leg has not begun, so it writes its report
      cases hstep with
      | quiet _ hquiet => exact absurd (hdue.symm.trans hquiet) nofun
      | reported | unreported => exact Or.inl ⟨_, rfl⟩
      | taken hb | refused hb => exact absurd (hb.symm.trans hbegun) nofun
    · rw [if_neg hconn]
      refine Or.inr ⟨rfl, howed nofun, ?_⟩
      rintro f' ⟨⟩ y hy hyconn
      rcases hs.eq_or_mem hflight hlegs hy with rfl | ⟨hy, -⟩
      · exact absurd (hstep.delivery.1.symm.trans hyconn) hconn
      · exact h.legs f hflight y hy hyconn
  | @arrive f hflight hdone =>
    -- a leg that is done has begun, so there is none to the connection
    refine Or.inr ⟨rfl, howed fun _ => ?_, nofun⟩
    rintro ⟨f', hf', l, hl, t, ht, hconn, hconcerns⟩
    obtain rfl := Option.some.inj (hflight.symm.trans hf')
    simp only [Delivery.concerns, Bool.and_eq_true, beq_iff_eq] at hconcerns
    have hbegun := (h.legs f hflight l hl (hconcerns.1.trans hconn)).1
    exact absurd (hdone l hl) (by simp [Leg.isDone, hbegun])

/-- Before any packet a report is written, if those that are tried succeed. -/
theorem Withheld.run (hs : s.Sound) (h : Withheld conn s) (moves : List Move) {l l' : List Sending}
    {handover : Handover} {taken : Bool}
    (hl : s.sendings conn moves = l ++ .data handover taken :: l')
    (hreports : ∀ r, .report r ∈ l → r = true) : .report true ∈ l := by
  induction moves generalizing s l with
  | nil => exact absurd hl (by simp [sendings])
  | cons mv rest ih =>
    rw [sendings] at hl
    rcases h.turn hs (turn_step hs.toNumbered conn mv) with ⟨r, hx⟩ | ⟨hx, h'⟩ <;> rw [hx] at hl
    · -- the first write is a report
      rcases l with - | ⟨y, l⟩
      · cases (List.cons.inj hl).1
      · obtain rfl : Sending.report r = y := (List.cons.inj hl).1
        rw [hreports r List.mem_cons_self]
        exact List.mem_cons_self
    · exact ih (hs.step mv) h' hl hreports

/-- The picture that is on its way now does not reach the entry of a connection any more. -/
def Misses (conn : ConnId) : Live → List Move → Prop
  | _, [] => True
  | s, mv :: rest =>
    s.flight = none ∨ ((mv = .arrive → ¬s.Reaches conn) ∧ Misses conn (s.step mv) rest)

/-- Before any packet that is written to a connection in `after`, a report is written to it in
`before` or `after`, if those that are tried succeed. -/
def Announces (s : Live) (conn : ConnId) (before after : List Move) : Prop :=
  ∀ l handover taken l',
    (s.run before).sendings conn after = l ++ .data handover taken :: l' →
    (∀ r, .report r ∈ s.sendings conn before ++ l → r = true) →
    .report true ∈ s.sendings conn before ++ l

/-- With no picture on its way, every picture to come departs later. -/
theorem Owed.announces_of_none (hs : s.Sound) (h : Owed conn s) (hnone : s.flight = none)
    (before after : List Move) : s.Announces conn before after := by
  intro l handover taken l' hl hreports
  have hwithheld : Withheld conn s := ⟨h, fun f hf => absurd (hnone.symm.trans hf) nofun⟩
  have hall : s.sendings conn (before ++ after) =
      (s.sendings conn before ++ l) ++ .data handover taken :: l' := by
    rw [sendings_append, hl, List.append_assoc]
  exact hwithheld.run hs (before ++ after) hall hreports

/-- If the picture that is on its way is missed, the report comes before every later picture. -/
theorem Owed.announces (hs : s.Sound) (h : Owed conn s) {before : List Move}
    (hmiss : Misses conn s before) (hnone : (s.run before).flight = none) (after : List Move) :
    s.Announces conn before after := by
  induction before generalizing s with
  | nil => exact h.announces_of_none hs hnone [] after
  | cons mv rest ih =>
    rcases hmiss with hlanded | ⟨harrive, hmiss⟩
    · exact h.announces_of_none hs hlanded _ after
    · intro l handover taken l' hl hreports
      have howed := h.turn hs (turn_step hs.toNumbered conn mv) harrive
      rw [sendings, List.append_assoc] at hreports ⊢
      exact List.mem_append_right _ (ih (hs.step mv) howed hmiss hnone l handover taken l' hl
        fun r hr => hreports r (List.mem_append_right _ hr))

/-! ### The numbers of the packets -/

/-- Would the picture on its way, if it arrived now, find the transport of a connection that it was
written to? -/
def Meets (s : Live) (conn : ConnId) : Prop :=
  ∀ f ∈ s.flight, (∀ l ∈ f.legs, l.isDone = true) → ∀ l ∈ f.legs, l.delivery.conn = conn →
    ∀ t ∈ s.hub.sessions, t.conn = conn → t.stream.transport = some l.delivery.transport

/-- Every picture that arrives finds the transport of a connection that it was written to. -/
def Returns (conn : ConnId) : Live → List Move → Prop
  | _, [] => True
  | s, mv :: rest => (mv = .arrive → s.Meets conn) ∧ Returns conn (s.step mv) rest

/-- The delivery to a connection has failed, and the connection goes when the picture arrives. -/
structure Over (conn : ConnId) (s : Live) : Prop where
  below : conn < s.hub.nextConn
  flying : ∀ f ∈ s.flight, ∀ l ∈ f.legs, l.delivery.conn = conn → l.delivery.failed = true
  landed : (∀ f ∈ s.flight, ∀ l ∈ f.legs, l.delivery.conn ≠ conn) →
    ∀ t ∈ s.hub.sessions, t.conn ≠ conn

/-- The packets `l` that were written continue the stream that an entry was at as `first`, and lead
to where the picture on its way is with it, or else to where the entry is. -/
structure Streaming (first : Session) (l : List Handover) (s : Live) : Prop where
  below : first.conn < s.hub.nextConn
  stamped : Handover.Consecutive first.stream.sequence first.stream.ssrc l
  source : ∀ t ∈ s.hub.sessions, t.conn = first.conn → t.stream.ssrc = first.stream.ssrc
  flying : ∀ f ∈ s.flight, ∀ leg ∈ f.legs, leg.delivery.conn = first.conn →
    leg.delivery.ssrc = first.stream.ssrc ∧
      leg.delivery.counters = first.stream.counters.advance l
  landed : (∀ f ∈ s.flight, ∀ leg ∈ f.legs, leg.delivery.conn ≠ first.conn) →
    ∀ t ∈ s.hub.sessions, t.conn = first.conn →
      t.stream.counters = first.stream.counters.advance l

/-- An arriving picture finds the delivery to an entry, or there is none. -/
theorem find?_arrived {f : Flight} (hs : s.Sound) (hflight : s.flight = some f)
    (hdone : ∀ l ∈ f.legs, l.isDone = true) (hmeets : s.Meets conn) {u : Session}
    (hu : u ∈ s.hub.sessions) (hconn : u.conn = conn) :
    ((∀ l ∈ f.legs, l.delivery.conn ≠ conn) ∧
        (f.legs.map (·.delivery)).find? (Delivery.concerns u) = none) ∨
      ∃ l ∈ f.legs, l.delivery.conn = conn ∧
        (f.legs.map (·.delivery)).find? (Delivery.concerns u) = some l.delivery := by
  by_cases hleg : ∃ l ∈ f.legs, l.delivery.conn = conn
  · obtain ⟨l, hl, hlconn⟩ := hleg
    refine Or.inr ⟨l, hl, hlconn, Delivery.find?_concerns ?_ (List.mem_map_of_mem hl)
      (hlconn.trans hconn.symm) (hmeets f hflight hdone l hl hlconn u hu hconn)⟩
    rw [List.map_map]
    exact hs.conns f hflight
  · have hnone : ∀ l ∈ f.legs, l.delivery.conn ≠ conn := fun l hl he => hleg ⟨l, hl, he⟩
    refine Or.inl ⟨hnone, Delivery.find?_concerns_eq_none fun d hd => ?_⟩
    obtain ⟨l, hl, rfl⟩ := List.mem_map.mp hd
    exact hconn ▸ hnone l hl

/-- Nothing is written to a connection whose delivery has failed, and it goes. -/
theorem Over.turn (hs : s.Sound) (h : Over conn s) (ht : Turn conn s mv x s')
    (hmeets : mv = .arrive → s.Meets conn) : x.bind Sending.written? = none ∧ Over conn s' := by
  cases ht with
  | idle => exact ⟨rfl, h⟩
  | operation o hquiet hchanges =>
    refine ⟨rfl, Nat.lt_of_lt_of_le h.below (Hub.Changes.nextConn_le hchanges), h.flying,
      fun hnone t ht hconn => ?_⟩
    obtain ⟨u, hu, huconn, -⟩ := Hub.entry_before hs.toNumbered hchanges ht (hconn ▸ h.below)
    exact h.landed hnone u hu (huconn.trans hconn)
  | depart picture hnone horder hcut =>
    have hgone := h.landed fun f hf => absurd (hnone.symm.trans hf) nofun
    refine ⟨rfl, h.below, ?_, fun _ => hgone⟩
    rintro f ⟨⟩ l hl hconn
    obtain ⟨d, hd, rfl⟩ := List.mem_map.mp hl
    obtain ⟨t, ht, hof⟩ := Hub.mem_deliveries.mp (horder.subset hd)
    exact absurd ((Delivery.of_ofSession? hof).1.symm.trans hconn) (hgone t ht)
  | @write wall f done l l' rest x m hflight hlegs hnext hstep =>
    have hmem : l ∈ f.legs := hlegs ▸ List.mem_append_right _ List.mem_cons_self
    have hlanded : (∀ y ∈ done ++ l' :: rest, y.delivery.conn ≠ conn) →
        ∀ t ∈ s.hub.sessions, t.conn ≠ conn :=
      fun hnone => h.landed (conn_ne_of_step hflight hlegs hstep hnone)
    by_cases hconn : l.delivery.conn = conn
    · -- the leg has failed, so there is no packet to write
      have hfailed := h.flying f hflight l hmem hconn
      have hstep' : x.bind Sending.written? = none ∧ l'.delivery.failed = true := by
        cases hstep with
        | quiet | reported | unreported => exact ⟨rfl, hfailed⟩
        | taken _ hf | refused _ hf => exact absurd (hf.symm.trans hfailed) nofun
      rw [if_pos hconn]
      refine ⟨hstep'.1, h.below, ?_, fun hnone => hlanded (hnone _ rfl)⟩
      rintro f' ⟨⟩ y hy hyconn
      rcases hs.eq_or_mem hflight hlegs hy with rfl | ⟨hy, -⟩
      · exact hstep'.2
      · exact h.flying f hflight y hy hyconn
    · rw [if_neg hconn]
      refine ⟨rfl, h.below, ?_, fun hnone => hlanded (hnone _ rfl)⟩
      rintro f' ⟨⟩ y hy hyconn
      rcases hs.eq_or_mem hflight hlegs hy with rfl | ⟨hy, -⟩
      · exact absurd (hstep.delivery.1.symm.trans hyconn) hconn
      · exact h.flying f hflight y hy hyconn
  | @arrive f hflight hdone =>
    refine ⟨rfl, h.below, nofun, fun _ t ht hconn => ?_⟩
    obtain ⟨u, hu, huconn, hkept, rfl⟩ := Hub.of_mem_conclude ht
    rcases find?_arrived hs hflight hdone (hmeets rfl) hu (huconn.trans hconn) with
      ⟨hnone, -⟩ | ⟨l, hl, hlconn, hfind⟩
    · refine h.landed (fun f' hf' => ?_) u hu (huconn.trans hconn)
      obtain rfl := Option.some.inj (hflight.symm.trans hf')
      exact hnone
    · -- the entry of a delivery that has failed does not stay
      rw [Delivery.failedFor, hfind] at hkept
      exact absurd (hkept.symm.trans (h.flying f hflight l hl hlconn)) nofun

section Written

variable {first : Session} {l : List Handover} {f : Flight} {done rest : List Leg} {leg leg' : Leg}

/-- The leg that is written to is the only one to its connection. -/
theorem eq_of_written (hs : s.Sound) (hflight : s.flight = some f)
    (hlegs : f.legs = done ++ leg :: rest) {y : Leg} (hy : y ∈ done ++ leg' :: rest)
    (hconn : y.delivery.conn = leg.delivery.conn) : y = leg' :=
  (hs.eq_or_mem hflight hlegs hy).resolve_right fun hne => hne.2 hconn

/-- If the leg to a connection is written to, the stream goes on with it. -/
theorem Streaming.written (hs : s.Sound) (h : Streaming first l s) (hflight : s.flight = some f)
    (hlegs : f.legs = done ++ leg :: rest) (hstep : leg.Step x leg')
    (hconn : leg.delivery.conn = first.conn) {k : List Handover}
    (hstamped : Handover.Consecutive first.stream.sequence first.stream.ssrc k)
    (hcounters : leg'.delivery.counters = first.stream.counters.advance k) (m : Media) :
    Streaming first k (airborne s.hub f.clock (done ++ leg' :: rest) m) := by
  have hthere : leg' ∈ done ++ leg' :: rest := List.mem_append_right _ List.mem_cons_self
  have hmem : leg ∈ f.legs := hlegs ▸ List.mem_append_right _ List.mem_cons_self
  refine ⟨h.below, hstamped, h.source, ?_, fun hnone => ?_⟩
  · rintro f' ⟨⟩ y hy hyconn
    rw [eq_of_written hs hflight hlegs hy (hyconn.trans hconn.symm)]
    exact ⟨hstep.delivery.2.2.trans (h.flying f hflight leg hmem hconn).1, hcounters⟩
  · exact absurd (hstep.delivery.1.trans hconn) (hnone _ rfl leg' hthere)

end Written

/-- What a step writes goes on from what was written before, unless it is refused. -/
theorem Streaming.turn {first : Session} {l : List Handover} (hs : s.Sound)
    (h : Streaming first l s) (ht : Turn first.conn s mv x s')
    (hmeets : mv = .arrive → s.Meets first.conn) :
    Streaming first (l ++ (x.bind Sending.written?).toList) s' ∨
      (x.bind Sending.written? = none ∧ Over first.conn s') := by
  cases ht with
  | idle =>
    rw [Option.bind_none, Option.toList_none, List.append_nil]
    exact Or.inl h
  | operation o hquiet hchanges =>
    rw [Option.bind_none, Option.toList_none, List.append_nil]
    refine Or.inl ⟨Nat.lt_of_lt_of_le h.below (Hub.Changes.nextConn_le hchanges), h.stamped,
      fun t ht hconn => ?_, h.flying, fun hnone t ht hconn => ?_⟩
    · obtain ⟨u, hu, huconn, hssrc, -⟩ :=
        Hub.entry_before hs.toNumbered hchanges ht (hconn ▸ h.below)
      exact hssrc.trans (h.source u hu (huconn.trans hconn))
    · obtain ⟨u, hu, huconn, -, hcounters, -⟩ :=
        Hub.entry_before hs.toNumbered hchanges ht (hconn ▸ h.below)
      exact hcounters.trans (h.landed hnone u hu (huconn.trans hconn))
  | depart picture hnone horder hcut =>
    rw [Option.bind_none, Option.toList_none, List.append_nil]
    have hlanded := h.landed fun f hf => absurd (hnone.symm.trans hf) nofun
    refine Or.inl ⟨h.below, h.stamped, h.source, ?_, fun _ => hlanded⟩
    -- the legs take the counters of the entries along
    rintro f ⟨⟩ leg hleg hconn
    obtain ⟨d, hd, rfl⟩ := List.mem_map.mp hleg
    obtain ⟨t, ht, hof⟩ := Hub.mem_deliveries.mp (horder.subset hd)
    obtain ⟨htconn, -, hssrc, hcounters⟩ := Delivery.of_ofSession? hof
    have hthere := htconn.symm.trans hconn
    exact ⟨hssrc.trans (h.source t ht hthere), hcounters.trans (hlanded t ht hthere)⟩
  | @write wall f done leg leg' rest x m hflight hlegs hnext hstep =>
    have hmem : leg ∈ f.legs := hlegs ▸ List.mem_append_right _ List.mem_cons_self
    by_cases hconn : leg.delivery.conn = first.conn
    · obtain ⟨hssrc, hcounters⟩ := h.flying f hflight leg hmem hconn
      have hgoes := fun {k : List Handover} =>
        h.written (k := k) hs hflight hlegs hstep hconn
      rw [if_pos hconn]
      cases hstep with
      | quiet | reported | unreported =>
        left
        show Streaming first (l ++ []) _
        rw [List.append_nil]
        exact hgoes h.stamped hcounters m
      | @taken packet =>
        -- the packet has the number that is next
        have hsequence : leg.delivery.sequence =
            first.stream.sequence + UInt16.ofNat l.length := congrArg Counters.sequence hcounters
        have hstamped := leg.delivery.consecutive_stamped packet
        rw [hsequence, hssrc] at hstamped
        refine Or.inl (hgoes (h.stamped.append hstamped) ?_ m)
        show (leg.delivery.count packet).counters = _
        rw [Delivery.counters_count, hcounters, Counters.advance_append]
      | refused =>
        refine Or.inr ⟨rfl, h.below, ?_, fun hnone => ?_⟩
        · rintro f' ⟨⟩ y hy hyconn
          rw [eq_of_written hs hflight hlegs hy (hyconn.trans hconn.symm)]
        · exact (hnone _ rfl _ (List.mem_append_right _ List.mem_cons_self) hconn).elim
    · rw [if_neg hconn, Option.bind_none, Option.toList_none, List.append_nil]
      refine Or.inl ⟨h.below, h.stamped, h.source, ?_, fun hnone =>
        h.landed (conn_ne_of_step hflight hlegs hstep (hnone _ rfl))⟩
      rintro f' ⟨⟩ y hy hyconn
      rcases hs.eq_or_mem hflight hlegs hy with rfl | ⟨hy, -⟩
      · exact absurd (hstep.delivery.1.symm.trans hyconn) hconn
      · exact h.flying f hflight y hy hyconn
  | @arrive f hflight hdone =>
    rw [Option.bind_none, Option.toList_none, List.append_nil]
    refine Or.inl ⟨h.below, h.stamped, fun t ht hconn => ?_, nofun, fun _ t ht hconn => ?_⟩
    · obtain ⟨u, hu, huconn, -, rfl⟩ := Hub.of_mem_conclude ht
      exact (u.revised_settle _).ssrc.trans (h.source u hu (huconn.trans hconn))
    · obtain ⟨u, hu, huconn, -, rfl⟩ := Hub.of_mem_conclude ht
      rcases find?_arrived hs hflight hdone (hmeets rfl) hu (huconn.trans hconn) with
        ⟨hnone, hfind⟩ | ⟨leg, hleg, hlconn, hfind⟩ <;> rw [Delivery.settle, hfind]
      · refine h.landed (fun f' hf' => ?_) u hu (huconn.trans hconn)
        obtain rfl := Option.some.inj (hflight.symm.trans hf')
        exact hnone
      · exact (h.flying f hflight leg hleg hlconn).2

/-! ### All writes of a run -/

theorem Over.run (hs : s.Sound) (h : Over conn s) {moves : List Move}
    (hreturns : Returns conn s moves) :
    (s.sendings conn moves).filterMap Sending.written? = [] := by
  induction moves generalizing s with
  | nil => rfl
  | cons mv rest ih =>
    obtain ⟨hwritten, h'⟩ := h.turn hs (turn_step hs.toNumbered conn mv) hreturns.1
    rw [sendings, List.filterMap_append, ih (hs.step mv) h' hreturns.2, List.append_nil]
    rcases hx : s.sendingTo? conn mv with - | y
    · rfl
    · rw [hx] at hwritten
      exact List.filterMap_eq_nil_iff.mpr fun z hz => List.mem_singleton.mp hz ▸ hwritten

/-- All packets that are written in a run continue the stream. -/
theorem Streaming.run {first : Session} {l : List Handover} (hs : s.Sound)
    (h : Streaming first l s) {moves : List Move} (hreturns : Returns first.conn s moves) :
    Handover.Consecutive first.stream.sequence first.stream.ssrc
      (l ++ (s.sendings first.conn moves).filterMap Sending.written?) := by
  induction moves generalizing s l with
  | nil => simpa [sendings] using h.stamped
  | cons mv rest ih =>
    have hone : ∀ y : Option Sending,
        y.toList.filterMap Sending.written? = (y.bind Sending.written?).toList := by
      intro y
      rcases y with - | y
      · rfl
      · rcases hy : Sending.written? y with - | z <;> simp [hy]
    rw [sendings, List.filterMap_append, hone]
    rcases h.turn hs (turn_step hs.toNumbered first.conn mv) hreturns.1 with h' | ⟨hnone, hover⟩
    · rw [← List.append_assoc]
      exact ih (hs.step mv) h' hreturns.2
    · rw [hnone, hover.run (hs.step mv) hreturns.2]
      simpa using h.stamped

/-- Every packet that is written begins with a whole header. -/
theorem read?_sendings (hs : s.Sound) (moves : List Move) {handover : Handover} {taken : Bool}
    (h : .data handover taken ∈ s.sendings conn moves) :
    ∃ header, Rtp.Header.read? handover.packet = some header := by
  induction moves generalizing s with
  | nil => cases h
  | cons mv rest ih =>
    rw [sendings] at h
    rcases List.mem_append.mp h with h | h
    · have hturn := turn_step hs.toNumbered conn mv
      rw [Option.mem_toList.mp h] at hturn
      generalize hx : some (Sending.data handover taken) = x, s.step mv = s' at hturn
      cases hturn with
      | @write wall f done l l' rest x m hflight hlegs hnext hstep =>
        have hmem : l ∈ f.legs := hlegs ▸ List.mem_append_right _ List.mem_cons_self
        split at hx
        · subst hx
          cases hstep with
          | taken _ _ hpackets | refused _ _ hpackets =>
            exact hs.headers f hflight l hmem _ (hpackets ▸ List.mem_cons_self)
        · cases hx
      | _ => cases hx
    · exact ih (hs.step mv) h

/-- PLAY makes a sender report due. -/
theorem owed_of_play (hs : s.Sound) {id : Text} {number : UInt16}
    (hp : (s.hub.play id).1 = .ok number) :
    ∃ t, s.hub.session? id = some t ∧ Owed t.conn (s.step (.operation (.play id))) := by
  obtain ⟨t, ht, hplayed⟩ : ∃ t, s.hub.session? id = some t ∧
      (s.hub.play id).2 = s.hub.update t.conn fun s =>
        { s with phase := .playing, stream := { s.stream with reportDue := true } } := by
    rcases s.hub.play_cases id with ⟨fault, he⟩ | ⟨t, ht, -, he⟩
    · rw [he] at hp
      cases hp
    · exact ⟨t, ht, congrArg Prod.snd he⟩
  have hhub : (s.step (.operation (.play id))).hub = s.hub.update t.conn fun s =>
      { s with phase := .playing, stream := { s.stream with reportDue := true } } := hplayed
  refine ⟨t, ht, ?_, fun u hu hconn => ?_⟩
  · rw [hhub]
    exact hs.below t (Hub.mem_of_session? ht).1
  · rw [hhub] at hu
    obtain ⟨v, hv, rfl⟩ := List.mem_map.mp hu
    split
    · rfl
    · next hne =>
      rw [if_neg hne] at hconn
      exact absurd hconn hne

/-- A connection starts a stream. -/
theorem streaming_register (hs : s.Sound) (peer : SocketAddress) (outlet : Outlet) (now : Nat) :
    Streaming (s.hub.register peer outlet now).1 []
      (s.step (.operation (.connect peer outlet now))) := by
  -- nobody else has the new number
  have honly : ∀ t ∈ s.hub.sessions ++ [(s.hub.register peer outlet now).1],
      t.conn = s.hub.nextConn → t = (s.hub.register peer outlet now).1 := by
    intro t ht hconn
    rcases List.mem_append.mp ht with ht | ht
    · exact absurd hconn (Nat.ne_of_lt (hs.below t ht))
    · exact List.mem_singleton.mp ht
  refine ⟨Nat.lt_succ_self _, .nil _ _, fun t ht hconn => ?_, fun f hf l hl hconn => ?_,
    fun _ t ht hconn => ?_⟩
  · rw [honly t ht hconn]
  · exact absurd hconn (Nat.ne_of_lt (hs.boarded f hf l hl))
  · rw [honly t ht hconn, Counters.advance_nil]

/-! ### After any run -/

section Opened

variable (settings : Settings) (authenticator : Option Authenticator)
  (packetizer : Jpeg.Packetizer) (entropy : Entropy) (ports : PortPool) (linkFault : Option Text)

theorem sound_opened : Sound
    { hub := Hub.opened settings authenticator packetizer entropy ports linkFault } :=
  ⟨Hub.numbered_opened settings authenticator packetizer entropy ports linkFault, nofun, nofun,
    nofun⟩

/-- **What overlaps does no harm, but for two cases.**  After any run of a hub that was opened
without connections, in which pictures are written while other things happen:

* after PLAY a sender report is written before any packet of a picture that departs later, if
  those that are tried succeed, and if the picture that is on its way when PLAY comes does not
  arrive at the transport of the session;
* if every picture that arrives finds the transport that it was written to, then the packets that
  are written to a connection, on whatever transport, are numbered one after the other, and no two
  of 65536 in a row have the same number. -/
theorem overlap (moves : List Move) :
    let s := Live.run
      { hub := Hub.opened settings authenticator packetizer entropy ports linkFault } moves
    (∀ id number, (s.hub.play id).1 = .ok number → ∃ t, s.hub.session? id = some t ∧
      let played := s.step (.operation (.play id))
      ∀ before after, (played.run before).flight = none → Misses t.conn played before →
        played.Announces t.conn before after) ∧
    ∀ peer outlet now next,
      let first := (s.hub.register peer outlet now).1
      let registered := s.step (.operation (.connect peer outlet now))
      Returns first.conn registered next →
        let written := (registered.sendings first.conn next).filterMap Sending.written?
        (∀ i x, written[i]? = some x → ∃ header, Rtp.Header.read? x.octets = some header ∧
          header.sequence = first.stream.sequence + UInt16.ofNat i ∧
          header.ssrc = first.stream.ssrc) ∧
        Handover.NumbersApart written := by
  intro s
  have hs : s.Sound :=
    (sound_opened settings authenticator packetizer entropy ports linkFault).run moves
  constructor
  · intro id number hp
    obtain ⟨t, ht, howed⟩ := owed_of_play hs hp
    exact ⟨t, ht, fun before after hnone hmiss => howed.announces (hs.step _) hmiss hnone after⟩
  · intro peer outlet now next first registered hreturns written
    have hregistered : registered.Sound := hs.step (.operation (.connect peer outlet now))
    have hconsecutive := (streaming_register hs peer outlet now).run hregistered hreturns
    have hread : ∀ x ∈ written, ∃ header, Rtp.Header.read? x.packet = some header := by
      intro x hx
      obtain ⟨y, hy, hyx⟩ := List.mem_filterMap.mp hx
      cases y with
      | report => cases hyx
      | data handover taken =>
        cases taken with
        | false => cases hyx
        | true => exact Option.some.inj hyx ▸ read?_sendings hregistered next hy
    exact ⟨fun i x hx => hconsecutive.read? hx (hread x (List.mem_of_getElem? hx)),
      hconsecutive.numbersApart hread⟩

end Opened

/-- The steps of a picture of one packet, on its way to one connection. -/
def flightOf (s : Live) (picture : Picture) : List Move :=
  [.depart picture s.hub.deliveries, .write ⟨0, 0⟩, .write ⟨0, 0⟩]

/-- Pictures are cut into packets of up to a hundred octets. -/
def smallPackets : Jpeg.Packetizer := { mtu := 100, mtu_pos := Nat.succ_pos 99 }

/-- One connection plays, and there is a second transport for it. -/
def oneViewer : Live :=
  let hub := Hub.opened {} none smallPackets
    ⟨UInt16.ofNat, UInt32.ofNat, UInt64.ofNat, 0, 0, 0⟩ {} none
  Live.run { hub } [.operation (.connect ⟨.v4 127 0 0 1, 4000, 0⟩ {} 0),
    .operation (.incident (.made (.memory .udp none false))),
    .operation (.incident (.made (.memory .udp none false))), .operation (.setUp 1 0),
    .operation (.play (Entropy.sessionName 0))]

/-- The packet of the smallest picture, as a source of zero sends it with a number. -/
def tinyHandover (sequence : UInt16) : Handover :=
  let packet := Jpeg.packet smallPackets Jpeg.tinyPicture [] 0 true [7]
  ⟨packet, Rtp.stamp packet sequence 0⟩

/-- **The two cases do harm.**  One connection plays.

* The first picture has arrived and the second one is on its way when PLAY comes again.  It
  arrives, and the third one is written without a report.
* The first picture is on its way when another transport is bound.  It arrives, and the second one
  has the number of the first. -/
theorem updates_lost :
    (let first := oneViewer.run (oneViewer.flightOf Jpeg.tinyPicture ++ [.arrive])
      let s := first.step (.depart Jpeg.tinyPicture first.hub.deliveries)
      let played := s.step (.operation (.play (Entropy.sessionName 0)))
      let before := [.write ⟨0, 0⟩, .write ⟨0, 0⟩, .arrive]
      (s.hub.play (Entropy.sessionName 0)).1.isOk = true ∧ (played.run before).flight = none ∧
        ¬played.Announces 1 before ((played.run before).flightOf Jpeg.tinyPicture)) ∧
    let moves := oneViewer.flightOf Jpeg.tinyPicture ++ [.operation (.setUp 1 1), .arrive]
    let later := (oneViewer.run moves).flightOf Jpeg.tinyPicture
    ¬Handover.NumbersApart
      ((oneViewer.sendings 1 (moves ++ later)).filterMap Sending.written?) := by
  constructor
  · intro first s played before
    have hbefore : played.sendings 1 before = [.data (tinyHandover 2) true] := by decide +kernel
    have hafter : (played.run before).sendings 1
        ((played.run before).flightOf Jpeg.tinyPicture) = [.data (tinyHandover 3) true] := by
      decide +kernel
    refine ⟨by decide +kernel, by decide +kernel, fun hannounces => ?_⟩
    have hreport := hannounces [] (tinyHandover 3) true [] hafter (by simp [hbefore])
    simp [hbefore] at hreport
  · intro moves later
    have hwritten : (oneViewer.sendings 1 (moves ++ later)).filterMap Sending.written? =
        [tinyHandover 1, tinyHandover 1] := by decide +kernel
    rw [hwritten]
    exact fun hapart => hapart 0 1 _ _ rfl rfl Nat.one_pos (by decide) rfl

end Live

end RtspServer
