/-
RtspServer/Proofs/Tenure.lean

Who holds which ports.  Binding a pair from a range gives the lowest free pair of
it, or says that there is none, and asks the host for no more than that takes
(`Media.Allots`).  Over a run in which pairs are bound and given back, while other
programs bind and close ports of their own, every port is held by one party at
most (`Tenure.Sound`).

What is said once is what a move does to the pair that a transport holds: binding
adds one, giving back takes one away, and nothing else touches any.  The rest
follows for one move after the other.
-/
import RtspServer.Proofs.Probing
import RtspServer.Proofs.Standing

namespace RtspServer

/-- A range of ports, from the first one up to but without the limit. It may be empty. -/
structure PortRange where
  first : UInt16
  limit : UInt16
  /-- Port zero stands for any port, and is not one. -/
  first_pos : 0 < first

/-- Both ports of a pair. -/
def PortPair.both (pair : PortPair) : List UInt16 := [pair.rtp, pair.rtcp]

theorem PortPair.mem_both {pair : PortPair} {port : UInt16} :
    port ∈ pair.both ↔ port = pair.rtp ∨ port = pair.rtcp := by
  simp [both]

namespace PortRange

/-- Where probing begins: at the first even port. -/
def start (range : PortRange) : Nat := range.first.toNat + range.first.toNat % 2

/-- An even port with its odd neighbour, both in the range. -/
structure Has (range : PortRange) (pair : PortPair) : Prop where
  even : pair.rtp.toNat % 2 = 0
  next : pair.rtcp.toNat = pair.rtp.toNat + 1
  first : range.first ≤ pair.rtp
  limit : pair.rtcp < range.limit

/-- The lowest pair of the range of which nobody holds a port. -/
def IsLowest (range : PortRange) (p : PortPool) (pair : PortPair) : Prop :=
  p.Free range.first range.limit pair ∧
    ∀ other, p.Free range.first range.limit other → pair.rtp ≤ other.rtp

variable {range : PortRange} {p : PortPool} {pair other : PortPair}

theorem IsLowest.has (h : range.IsLowest p pair) : range.Has pair :=
  ⟨h.1.even, h.1.next, h.1.first, h.1.limit⟩

/-- There is one lowest pair at most. -/
theorem IsLowest.unique (h : range.IsLowest p pair) (h' : range.IsLowest p other) :
    pair = other := by
  have hrtp : pair.rtp = other.rtp :=
    UInt16.le_antisymm (h.2 other h'.1) (h'.2 pair h.1)
  have hrtcp : pair.rtcp = other.rtcp := by
    rw [← UInt16.toNat_inj, h.1.next, h'.1.next, hrtp]
  cases pair
  cases other
  simp_all

end PortRange

/-- The pair of ports that a transport holds, if it does: that of a datagram carrier, until it is
given back. -/
def Transport.pair? (t : Transport) : Option PortPair :=
  match t.carrier with
  | .datagrams pair .. => if t.released then none else some pair
  | _ => none

theorem PortPool.mem_taken_releasePair {p : PortPool} {pair : PortPair} {port : UInt16} :
    port ∈ (p.releasePair pair).taken ↔ port ∈ p.taken ∧ port ∉ pair.both := by
  simp only [releasePair, release, List.mem_filter, bne_iff_ne, PortPair.mem_both, not_or,
    and_assoc]

namespace Media

/-- The pair of ports that the transport with a number holds, if it does. -/
def pair? (m : Media) (id : TransportId) : Option PortPair :=
  m.transports[id]?.bind Transport.pair?

/-- A new datagram transport on a pair of ports. -/
def seat (m : Media) (pair : PortPair) (client : IpAddress) (clientPorts : PortPair) : Media :=
  { m with
    ports := ⟨pair.rtcp :: pair.rtp :: m.ports.taken⟩
    transports := m.transports ++ [{ carrier := .datagrams pair client clientPorts }] }

/-- How a pair is bound: which one it is, when there is none, and which calls are made to the host
for it. -/
structure Allots (m : Media) (range : PortRange) (client : IpAddress) (clientPorts : PortPair) :
    Prop where
  /-- The lowest free pair is bound, under the next number. -/
  ok_iff : ∀ pair id m',
    m.openDatagrams range.first range.limit client clientPorts = .ok (pair, id, m') ↔
      range.IsLowest m.ports pair ∧ id = m.transports.length ∧
        m' = m.seat pair client clientPorts
  /-- It is an error, and always the same one, if no pair of the range is free. -/
  error_iff : ∀ fault,
    m.openDatagrams range.first range.limit client clientPorts = .error fault ↔
      fault = .portsExhausted range.first range.limit ∧
        ∀ pair, ¬m.ports.Free range.first range.limit pair
  /-- The calls are answered one after the other, and leave the pair held that was bound and nothing
  else. -/
  calls : (m.ports.probeCalls range.limit.toNat range.start).foldlM PortPool.follow? m.ports =
    some (((m.openDatagrams range.first range.limit client clientPorts).toOption.map
      (·.2.2.ports)).getD m.ports)
  /-- Every call is for a port of the range, which loses nothing when it becomes a word. -/
  whole : ∀ c ∈ m.ports.probeCalls range.limit.toNat range.start,
    range.first.toNat ≤ c.port ∧ c.port < range.limit.toNat ∧ (UInt16.ofNat c.port).toNat = c.port
  /-- There are three calls at most for every two ports. -/
  few : 2 * (m.ports.probeCalls range.limit.toNat range.start).length ≤
    3 * (range.limit.toNat - range.start)

/-! ### Binding -/

variable {m : Media}

/-- Binding gives the lowest free pair, or there is none. -/
theorem openDatagrams_cases (m : Media) (range : PortRange) (client : IpAddress)
    (clientPorts : PortPair) :
    (∃ pair, range.IsLowest m.ports pair ∧
      m.openDatagrams range.first range.limit client clientPorts =
        .ok (pair, m.transports.length, m.seat pair client clientPorts)) ∨
    ((∀ pair, ¬m.ports.Free range.first range.limit pair) ∧
      m.openDatagrams range.first range.limit client clientPorts =
        .error (.portsExhausted range.first range.limit)) := by
  rcases m.ports.reserve_cases range.first range.limit with ⟨pair, hfree, hlow, e⟩ | ⟨hnone, e⟩
  · refine .inl ⟨pair, ⟨hfree, hlow⟩, ?_⟩
    rw [openDatagrams, e]
    rfl
  · refine .inr ⟨hnone, ?_⟩
    rw [openDatagrams, e]
    rfl

/-- What the calls to the host leave behind is what binding says. -/
theorem follow_calls (m : Media) (range : PortRange) (client : IpAddress)
    (clientPorts : PortPair) :
    (m.ports.probeCalls range.limit.toNat range.start).foldlM PortPool.follow? m.ports =
      some (((m.openDatagrams range.first range.limit client clientPorts).toOption.map
        (·.2.2.ports)).getD m.ports) := by
  rw [PortPool.follow_probeCalls, openDatagrams, PortPool.reserve, PortRange.start]
  rcases m.ports.probe range.limit.toNat (range.first.toNat + range.first.toNat % 2)
    with - | ⟨pair, ports⟩
  · rfl
  · rfl

theorem allots (m : Media) (range : PortRange) (client : IpAddress) (clientPorts : PortPair) :
    m.Allots range client clientPorts where
  ok_iff pair id m' := by
    rcases m.openDatagrams_cases range client clientPorts with ⟨low, hlow, e⟩ | ⟨hnone, e⟩
    · rw [e]
      constructor
      · intro h
        cases h
        exact ⟨hlow, rfl, rfl⟩
      · rintro ⟨hpair, rfl, rfl⟩
        rw [hlow.unique hpair]
    · rw [e]
      exact ⟨nofun, fun h => absurd h.1.1 (hnone pair)⟩
  error_iff fault := by
    rcases m.openDatagrams_cases range client clientPorts with ⟨low, hlow, e⟩ | ⟨hnone, e⟩
    · rw [e]
      exact ⟨nofun, fun h => absurd hlow.1 (h.2 low)⟩
    · rw [e]
      exact ⟨fun h => ⟨(Except.error.inj h).symm, hnone⟩, fun h => by rw [h.1]⟩
  calls := m.follow_calls range client clientPorts
  whole c hc := by
    obtain ⟨hstart, hlimit⟩ := PortPool.port_of_mem_probeCalls hc
    have hfirst : range.first.toNat ≤ c.port := Nat.le_trans (Nat.le_add_right ..) hstart
    have hsize : c.port < UInt16.size := Nat.lt_trans hlimit range.limit.toNat_lt
    exact ⟨hfirst, hlimit, UInt16.toNat_ofNat_of_lt' hsize⟩
  few := m.ports.length_probeCalls_le _ _

/-! ### Which pair a transport holds -/

/-- A pair is held that was held before, or the one that has just been bound. -/
theorem pair?_seat_eq_some_iff {pair other : PortPair} {client : IpAddress}
    {clientPorts : PortPair} {id : TransportId} :
    (m.seat pair client clientPorts).pair? id = some other ↔
      (id = m.transports.length ∧ pair = other) ∨ m.pair? id = some other := by
  have hnone : m.pair? m.transports.length = none := by simp [pair?]
  rcases Nat.lt_trichotomy id m.transports.length with hlt | rfl | hgt
  · have hold : (m.seat pair client clientPorts).pair? id = m.pair? id := by
      rw [pair?, seat, List.getElem?_append_left hlt, pair?]
    simp [hold, Nat.ne_of_lt hlt]
  · have hnew : (m.seat pair client clientPorts).pair? m.transports.length = some pair := by
      rw [pair?, seat, List.getElem?_concat_length]
      rfl
    simp [hnew, hnone]
  · have hnew : (m.seat pair client clientPorts).pair? id = none := by
      rw [pair?, seat, List.getElem?_eq_none (by rw [List.length_append]; exact hgt)]
      rfl
    have hold : m.pair? id = none := by
      rw [pair?, List.getElem?_eq_none (Nat.le_of_lt hgt)]
      rfl
    simp [hnew, hold, Nat.ne_of_gt hgt]

/-- A change of a transport that is nothing to its ports. -/
theorem pair?_updateTransport {f : Transport → Transport} (hf : ∀ t, (f t).pair? = t.pair?)
    (m : Media) (id other : TransportId) :
    (m.updateTransport id f).pair? other = m.pair? other := by
  rw [pair?, getElem?_updateTransport, pair?]
  rcases m.transports[other]? with - | t
  · rfl
  · by_cases h : id = other
    · simp [h, hf]
    · simp [h]

theorem pair?_stop (m : Media) (id other : TransportId) : (m.stop id).pair? other = m.pair? other :=
  pair?_updateTransport (fun t => by rfl) m id other

/-- Starting a transport, if it can be started, changes no pair and no port. -/
theorem start_keeps_pairs {m' : Media} {id : TransportId} (h : m.start id = .ok m') :
    (∀ other, m'.pair? other = m.pair? other) ∧ m'.ports = m.ports ∧
      m'.transports.length = m.transports.length := by
  unfold start at h
  split at h
  · cases h
  · split_ifs at h
    cases h
    exact ⟨pair?_updateTransport (fun t => by rfl) m id, rfl, List.length_modify ..⟩

/-- Giving back takes the pair from one transport, or does nothing. -/
theorem reclaim_cases (m : Media) (id : TransportId) :
    (∃ pair, m.pair? id = some pair ∧ (m.reclaim id).ports = m.ports.releasePair pair ∧
      (∀ other pair', (m.reclaim id).pair? other = some pair' ↔
        id ≠ other ∧ m.pair? other = some pair') ∧
      (m.reclaim id).transports.length = m.transports.length) ∨
    m.reclaim id = m := by
  unfold reclaim
  split
  · rename_i pair client clientPorts started inbox carried ht
    refine .inl ⟨pair, by rw [pair?, ht]; rfl, rfl, fun other pair' => ?_, List.length_modify ..⟩
    rw [pair?, getElem?_updateTransport]
    by_cases h : id = other
    · subst h
      simp [ht, Transport.pair?]
    · simp [h, pair?]
  · exact .inr rfl

end Media

/-! ### Runs -/

/-- The transports of the server, and the ports that others hold on the host. -/
structure Tenure where
  media : Media := {}
  /-- The range that each transport was bound in, under its number. -/
  ranges : List PortRange := []
  /-- The ports that sockets of other programs hold. -/
  others : List UInt16 := []

namespace Tenure

/-- What can happen to the ports of the host. -/
inductive Move where
  | bind (range : PortRange) (client : IpAddress) (clientPorts : PortPair)
  | start (id : TransportId)
  | stop (id : TransportId)
  | reclaim (id : TransportId)
  /-- Another program binds a port. -/
  | occupied (port : UInt16)
  /-- Another program closes a port. -/
  | vacated (port : UInt16)

/-- One move. What cannot be done leaves everything as it is. -/
def move (h : Tenure) : Move → Tenure
  | .bind range client clientPorts =>
    match h.media.openDatagrams range.first range.limit client clientPorts with
    | .ok (_, _, media) => { h with media, ranges := h.ranges ++ [range] }
    | .error _ => h
  | .start id => { h with media := (h.media.start id).toOption.getD h.media }
  | .stop id => { h with media := h.media.stop id }
  | .reclaim id => { h with media := h.media.reclaim id }
  | .occupied port =>
    match h.media.ports.hold? port with
    | some ports => { h with media := { h.media with ports }, others := port :: h.others }
    | none => h
  | .vacated port =>
    if port ∈ h.others then
      { h with
        media := { h.media with ports := h.media.ports.release port }
        others := h.others.filter (· != port) }
    else h

/-- One move after the other. -/
def run (h : Tenure) (moves : List Move) : Tenure := moves.foldl move h

/-- No transports, and some ports that others hold. -/
def ofTaken (taken : List UInt16) : Tenure := { media := { ports := ⟨taken⟩ }, others := taken }

/-- Every port is held by one party at most, and every pair is one of its range. -/
structure Sound (h : Tenure) : Prop where
  /-- A port is held by another program or by a transport, or it is free. -/
  taken_iff : ∀ port, port ∈ h.media.ports.taken ↔
    port ∈ h.others ∨ ∃ id pair, h.media.pair? id = some pair ∧ port ∈ pair.both
  /-- No transport has a port of another program. -/
  apart : ∀ id pair, h.media.pair? id = some pair → pair.both.Disjoint h.others
  /-- No two transports have a port in common. -/
  disjoint : ∀ id id' pair pair', h.media.pair? id = some pair →
    h.media.pair? id' = some pair' → id ≠ id' → pair.both.Disjoint pair'.both
  /-- A pair is an even port and the odd one after it, in the range that it was bound in. -/
  inside : ∀ id pair, h.media.pair? id = some pair →
    ∃ range, h.ranges[id]? = some range ∧ range.Has pair
  /-- There is a range for every transport. -/
  length : h.ranges.length = h.media.transports.length

variable {h : Tenure}

theorem sound_ofTaken (taken : List UInt16) : (ofTaken taken).Sound where
  taken_iff port := by simp [ofTaken, Media.pair?]
  apart id pair hid := by simp [ofTaken, Media.pair?] at hid
  disjoint id id' pair pair' hid := by simp [ofTaken, Media.pair?] at hid
  inside id pair hid := by simp [ofTaken, Media.pair?] at hid
  length := rfl

/-- What changes no pair and no port keeps everything sound. -/
theorem Sound.of_same (hs : h.Sound) {m' : Media}
    (hpair : ∀ id, m'.pair? id = h.media.pair? id) (hports : m'.ports = h.media.ports)
    (hlength : m'.transports.length = h.media.transports.length) :
    ({ h with media := m' } : Tenure).Sound where
  taken_iff port := by simpa only [hports, hpair] using hs.taken_iff port
  apart id pair hid := hs.apart id pair ((hpair id).symm.trans hid)
  disjoint id id' pair pair' hid hid' :=
    hs.disjoint id id' pair pair' ((hpair id).symm.trans hid) ((hpair id').symm.trans hid')
  inside id pair hid := hs.inside id pair ((hpair id).symm.trans hid)
  length := hs.length.trans hlength.symm

/-- A port that a transport holds is taken. -/
theorem Sound.taken (hs : h.Sound) {id : TransportId} {pair : PortPair} {port : UInt16}
    (hid : h.media.pair? id = some pair) (hport : port ∈ pair.both) :
    port ∈ h.media.ports.taken :=
  (hs.taken_iff port).mpr (.inr ⟨id, pair, hid, hport⟩)

/-- A pair of which nobody holds a port is bound. -/
theorem Sound.seat (hs : h.Sound) {range : PortRange} {pair : PortPair}
    (hlow : range.IsLowest h.media.ports pair) (client : IpAddress) (clientPorts : PortPair) :
    ({ h with media := h.media.seat pair client clientPorts, ranges := h.ranges ++ [range] } :
      Tenure).Sound := by
  have hfree : ∀ port ∈ pair.both, port ∉ h.media.ports.taken := by
    intro port hport
    rcases PortPair.mem_both.mp hport with rfl | rfl
    · exact hlow.1.rtp
    · exact hlow.1.rtcp
  constructor
  · intro port
    have hmem : port ∈ (h.media.seat pair client clientPorts).ports.taken ↔
        port ∈ pair.both ∨ port ∈ h.media.ports.taken := by
      simp [Media.seat, PortPair.mem_both, or_assoc, or_left_comm]
    simp only [hmem, hs.taken_iff, Media.pair?_seat_eq_some_iff]
    constructor
    · rintro (hnew | hother | ⟨id, other, hid, hport⟩)
      · exact .inr ⟨_, pair, .inl ⟨rfl, rfl⟩, hnew⟩
      · exact .inl hother
      · exact .inr ⟨id, other, .inr hid, hport⟩
    · rintro (hother | ⟨id, other, ⟨-, rfl⟩ | hid, hport⟩)
      · exact .inr (.inl hother)
      · exact .inl hport
      · exact .inr (.inr ⟨id, other, hid, hport⟩)
  · intro id other hid
    rcases Media.pair?_seat_eq_some_iff.mp hid with ⟨-, rfl⟩ | hid
    · exact fun port hport hother => hfree port hport ((hs.taken_iff port).mpr (.inl hother))
    · exact hs.apart id other hid
  · intro id id' other other' hid hid' hne
    rcases Media.pair?_seat_eq_some_iff.mp hid with ⟨rfl, rfl⟩ | hid <;>
      rcases Media.pair?_seat_eq_some_iff.mp hid' with ⟨rfl, rfl⟩ | hid'
    · exact absurd rfl hne
    · exact fun port hport hport' => hfree port hport (hs.taken hid' hport')
    · exact fun port hport hport' => hfree port hport' (hs.taken hid hport)
    · exact hs.disjoint id id' other other' hid hid' hne
  · intro id other hid
    rcases Media.pair?_seat_eq_some_iff.mp hid with ⟨rfl, rfl⟩ | hid
    · exact ⟨range, by rw [← hs.length]; exact List.getElem?_concat_length, hlow.has⟩
    · obtain ⟨range', hrange, hhas⟩ := hs.inside id other hid
      have hlt : id < h.ranges.length := (List.getElem?_eq_some_iff.mp hrange).1
      exact ⟨range', (List.getElem?_append_left hlt).trans hrange, hhas⟩
  · simp [Media.seat, hs.length]

/-- A transport gives its pair back. -/
theorem Sound.reclaim (hs : h.Sound) (id : TransportId) :
    ({ h with media := h.media.reclaim id } : Tenure).Sound := by
  rcases h.media.reclaim_cases id with ⟨pair, hpair, hports, hwho, hlength⟩ | e
  · constructor
    · intro port
      simp only [hports, PortPool.mem_taken_releasePair, hs.taken_iff, hwho]
      constructor
      · rintro ⟨hother | ⟨other, pair', hother, hport⟩, hnot⟩
        · exact .inl hother
        · -- a port that is not given back is another transport's
          have hne : id ≠ other := by
            rintro rfl
            rw [hpair, Option.some.injEq] at hother
            exact hnot (hother ▸ hport)
          exact .inr ⟨other, pair', ⟨hne, hother⟩, hport⟩
      · rintro (hother | ⟨other, pair', ⟨hne, hother⟩, hport⟩)
        · exact ⟨.inl hother, fun hport => hs.apart id pair hpair hport hother⟩
        · exact ⟨.inr ⟨other, pair', hother, hport⟩,
            fun hport' => hs.disjoint id other pair pair' hpair hother hne hport' hport⟩
    · exact fun other pair' hother => hs.apart other pair' ((hwho ..).mp hother).2
    · exact fun other other' pair' pair'' hother hother' =>
        hs.disjoint other other' pair' pair'' ((hwho ..).mp hother).2 ((hwho ..).mp hother').2
    · exact fun other pair' hother => hs.inside other pair' ((hwho ..).mp hother).2
    · exact hs.length.trans hlength.symm
  · rw [e]
    exact hs

/-- Another program binds a port that nobody holds. -/
theorem Sound.occupied (hs : h.Sound) {port : UInt16} (hfree : port ∉ h.media.ports.taken) :
    ({ h with media := { h.media with ports := ⟨port :: h.media.ports.taken⟩ },
              others := port :: h.others } : Tenure).Sound where
  taken_iff other := by
    show other ∈ port :: h.media.ports.taken ↔ other ∈ port :: h.others ∨ _
    rw [List.mem_cons, List.mem_cons, hs.taken_iff, or_assoc]
    rfl
  apart id pair hid := by
    intro other hother hmem
    rcases List.mem_cons.mp hmem with rfl | hmem
    · exact hfree (hs.taken hid hother)
    · exact hs.apart id pair hid hother hmem
  disjoint := hs.disjoint
  inside := hs.inside
  length := hs.length

/-- Another program closes a port of its own. -/
theorem Sound.vacated (hs : h.Sound) {port : UInt16} (hport : port ∈ h.others) :
    ({ h with media := { h.media with ports := h.media.ports.release port },
              others := h.others.filter (· != port) } : Tenure).Sound where
  taken_iff other := by
    have hheld : ∀ id pair, h.media.pair? id = some pair → other ∈ pair.both → other ≠ port :=
      fun id pair hid hother e => hs.apart id pair hid hother (e ▸ hport)
    show other ∈ h.media.ports.taken.filter (· != port) ↔
      other ∈ h.others.filter (· != port) ∨ ∃ id pair, h.media.pair? id = some pair ∧ _
    simp only [List.mem_filter, bne_iff_ne, hs.taken_iff]
    constructor
    · rintro ⟨hother | hheld, hne⟩
      · exact .inl ⟨hother, hne⟩
      · exact .inr hheld
    · rintro (⟨hother, hne⟩ | ⟨id, pair, hid, hother⟩)
      · exact ⟨.inl hother, hne⟩
      · exact ⟨.inr ⟨id, pair, hid, hother⟩, hheld id pair hid hother⟩
  apart id pair hid := fun other hother hmem =>
    hs.apart id pair hid hother (List.mem_filter.mp hmem).1
  disjoint := hs.disjoint
  inside := hs.inside
  length := hs.length

/-- A move keeps everything sound. -/
theorem Sound.move (hs : h.Sound) (move : Move) : (h.move move).Sound := by
  cases move with
  | bind range client clientPorts =>
    rcases h.media.openDatagrams_cases range client clientPorts with ⟨pair, hlow, e⟩ | ⟨-, e⟩
    · simp only [Tenure.move, e]
      exact hs.seat hlow client clientPorts
    · simp only [Tenure.move, e]
      exact hs
  | start id =>
    simp only [Tenure.move]
    rcases e : h.media.start id with _ | m'
    · exact hs
    · obtain ⟨hpair, hports, hlength⟩ := Media.start_keeps_pairs e
      exact hs.of_same hpair hports hlength
  | stop id => exact hs.of_same (h.media.pair?_stop id) rfl (List.length_modify ..)
  | reclaim id => exact hs.reclaim id
  | occupied port =>
    rcases e : h.media.ports.hold? port with - | ports
    · simp only [Tenure.move, e]
      exact hs
    · obtain ⟨hfree, rfl⟩ := PortPool.hold?_eq_some_iff.mp e
      simp only [Tenure.move, e]
      exact hs.occupied hfree
  | vacated port =>
    simp only [Tenure.move]
    split_ifs with hport
    · exact hs.vacated hport
    · exact hs

theorem Sound.run (hs : h.Sound) (moves : List Move) : (h.run moves).Sound := by
  induction moves generalizing h with
  | nil => exact hs
  | cons move moves ih => exact ih (hs.move move)

/-- **Pairs of ports.** Binding gives the lowest free pair of a range, or says that there is none,
with calls that leave nothing else behind; and whatever is bound and given back, no two parties ever
hold the same port. -/
theorem pairs_allotted :
    (∀ (m : Media) (range : PortRange) (client : IpAddress) (clientPorts : PortPair),
      m.Allots range client clientPorts) ∧
    ∀ (taken : List UInt16) (moves : List Move), ((ofTaken taken).run moves).Sound :=
  ⟨Media.allots, fun taken moves => (sound_ofTaken taken).run moves⟩

/-- Port 41003 is another program's. The pair that is given back is the next to be bound. -/
example :
    let range : PortRange := ⟨41001, 42000, by decide⟩
    let client : Move := .bind range (.v4 127 0 0 1) ⟨5000, 5001⟩
    let h := (ofTaken [41003]).run [client, client, .stop 0, .reclaim 0, client]
    [h.media.pair? 0, h.media.pair? 1, h.media.pair? 2] =
      [none, some ⟨41006, 41007⟩, some ⟨41004, 41005⟩] := by
  cbv

end Tenure

end RtspServer
