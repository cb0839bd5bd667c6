/-
RtspServer/Proofs/Entry.lean

What becomes of an entry while it lives.

After a change an entry is one that was there, perhaps revised, or one that is
new, or one that has been bound to a transport (`Hub.Change.mem_sessions`).
Two invariants follow.  Every entry is coherent: it is in `init` as long as it
has no id, has no id as long as it has no transport, and is never `closed`.
And its source and its id, once it has one, stay (`Hub.Continues`).
-/
import RtspServer.Proofs.Change

namespace RtspServer

/-! ### Coherent entries -/

namespace Session

/-- An entry is in `init` as long as it has no id, and has no id as long as it has no transport. -/
structure Coherent (s : Session) : Prop where
  live : s.phase ≠ .closed
  init_iff : s.phase = .init ↔ s.id = none
  bound_iff : s.id = none ↔ s.stream.transport = none

theorem Coherent.revised {s t : Session} (hs : s.Coherent) (hr : s.Revised t) : t.Coherent := by
  rcases hr.phase with hp | ⟨hid, hp⟩
  · exact ⟨hp ▸ hs.live, by rw [hp, hr.id, hs.init_iff], by rw [hr.id, hr.transport, hs.bound_iff]⟩
  · -- an entry with an id leaves `init` and never comes back
    have hne : s.id ≠ none := Option.isSome_iff_ne_none.mp hid
    refine ⟨?_, ?_, by rw [hr.id, hr.transport, hs.bound_iff]⟩
    · rcases hp with hp | hp <;> rw [hp] <;> decide
    · rw [hr.id]
      rcases hp with hp | hp <;> rw [hp] <;> simp [hne]

theorem Coherent.bindTransport {s : Session} (hs : s.Coherent) (id : Text)
    (transport : TransportId) : (Hub.bindTransport id transport s).Coherent := by
  refine ⟨?_, ?_, by simp [Hub.bindTransport]⟩
  · simp only [Hub.bindTransport]
    split
    · exact nofun
    · exact hs.live
  · simp only [Hub.bindTransport]
    split <;> simp_all

/-- Whoever plays is set up. -/
theorem Coherent.isSetUp_of_isPlaying {s : Session} (hs : s.Coherent)
    (hp : s.isPlaying = true) : s.isSetUp = true := by
  have hphase : s.phase = .playing := by simpa [isPlaying] using hp
  have hid : s.id ≠ none := fun hnone => by
    rw [hs.init_iff.mpr hnone] at hphase
    cases hphase
  exact Option.isSome_iff_ne_none.mpr hid

end Session

namespace Hub

/-! ### Entries after one change -/

/-- An entry just registered: a new number, nothing set up and nothing counted. -/
structure IsNewcomer (h : Hub) (t : Session) : Prop where
  conn : t.conn = h.nextConn
  id : t.id = none
  phase : t.phase = .init
  transport : t.stream.transport = none
  rtcpReceived : t.stream.rtcpReceived = 0

/-- Where an entry comes from that is there after a change: it was there, perhaps before a
revision, or it is new, or it has been bound to a transport and kept its id if it had one. -/
theorem Change.mem_sessions {R : Session → Session → Prop} (hR : ∀ s, R s s) {h h' : Hub}
    (hn : h.Numbered) (hc : Change R h h') {t : Session} (ht : t ∈ h'.sessions) :
    (∃ s ∈ h.sessions, R s t) ∨ h.IsNewcomer t ∨
      ∃ s ∈ h.sessions, ∃ id transport, t = bindTransport id transport s ∧
        ∀ old, s.id = some old → id = old := by
  have stays : ∀ {s : Session}, s ∈ h.sessions → ∃ u ∈ h.sessions, R u s :=
    fun hs => ⟨_, hs, hR _⟩
  cases hc with
  | register peer outlet now =>
    rcases List.mem_append.mp ht with ht | ht
    · exact Or.inl (stays ht)
    · rw [List.mem_singleton.mp ht]
      exact Or.inr (Or.inl ⟨rfl, rfl, rfl, rfl, rfl⟩)
  | evict p keepOutlet => exact Or.inl (stays (List.mem_filter.mp ht).1)
  | setUp conn transport =>
    rcases h.setUp_cases conn transport with ⟨_, _, e⟩ | ⟨_, _, _, _, e⟩ | ⟨m, s, _, hs, e⟩ <;>
      rw [e] at ht
    · exact Or.inl (stays ht)
    · exact Or.inl (stays ht)
    · obtain ⟨u, hu, rfl⟩ := List.mem_map.mp ht
      split
      · -- numbers are distinct, so this is the entry that was looked up
        next hc =>
        obtain ⟨hmem, hconn⟩ := mem_of_entry_eq hs
        obtain rfl := hn.eq_of_conn hu hmem (hc.trans hconn.symm)
        refine Or.inr (Or.inr ⟨u, hu, _, transport, rfl, fun old hold => ?_⟩)
        simp [idFor, hold]
      · exact Or.inl (stays hu)
  | revise hf =>
    obtain ⟨s, hs, rfl⟩ := List.mem_map.mp ht
    exact Or.inl ⟨s, hs, hf s hs⟩
  | media hm => exact Or.inl (stays ht)

/-- Numbers of connections only go up. -/
theorem Change.nextConn_le {R : Session → Session → Prop} {h h' : Hub} (hc : Change R h h') :
    h.nextConn ≤ h'.nextConn := by
  cases hc with
  | register peer outlet now => exact Nat.le_succ _
  | setUp conn transport =>
    rcases h.setUp_cases conn transport with ⟨_, _, e⟩ | ⟨_, _, _, _, e⟩ | ⟨_, _, _, _, e⟩ <;>
      exact e ▸ Nat.le_refl _
  | _ => exact Nat.le_refl _

theorem Changes.nextConn_le {R : Session → Session → Prop} {h h' : Hub} (hc : Changes R h h') :
    h.nextConn ≤ h'.nextConn := by
  induction hc with
  | refl => exact Nat.le_refl _
  | tail _ hstep ih => exact Nat.le_trans ih hstep.nextConn_le

/-- Where an entry comes from that was registered before some changes: it was there, and the changes
have kept of it what revisions and bindings keep. -/
theorem Changes.origin {R Q : Session → Session → Prop} (hrevised : ∀ s t, R s t → s.Revised t)
    (hrefl : ∀ s, R s s) (hR : ∀ s t, R s t → Q s t)
    (hbind : ∀ s id transport, Q s (bindTransport id transport s))
    (htrans : ∀ {a b c}, Q a b → Q b c → Q a c) {h h' : Hub} (hn : h.Numbered)
    (hc : Changes R h h') {t : Session} (ht : t ∈ h'.sessions) (hold : t.conn < h.nextConn) :
    ∃ s ∈ h.sessions, s.conn = t.conn ∧ Q s t := by
  induction hc generalizing t with
  | refl => exact ⟨t, ht, rfl, hR _ _ (hrefl t)⟩
  | tail hpre hstep ih =>
    have hmid := hn.changes (Changes.mono hrevised hpre)
    rcases hstep.mem_sessions hrefl hmid ht with ⟨u, hu, hr⟩ | hnew | ⟨u, hu, id, transport, rfl, -⟩
    · have hconn := (hrevised _ _ hr).conn
      obtain ⟨s, hs, hsame, hq⟩ := ih hu (hconn ▸ hold)
      exact ⟨s, hs, hsame.trans hconn.symm, htrans hq (hR _ _ hr)⟩
    · -- a newcomer has a number that was not given out before
      exact absurd (hnew.conn ▸ hold) (Nat.not_lt.mpr (Changes.nextConn_le hpre))
    · obtain ⟨s, hs, hsame, hq⟩ := ih hu hold
      exact ⟨s, hs, hsame, htrans hq (hbind u id transport)⟩

/-- Entries that change where they stand are found where they were. -/
theorem entry?_map (h : Hub) {f : Session → Session} (hf : ∀ s, (f s).conn = s.conn)
    (conn : ConnId) :
    Hub.entry? { h with sessions := h.sessions.map f } conn = (h.entry? conn).map f := by
  have hsame : ((·.conn == conn) ∘ f) = fun s : Session => s.conn == conn := by
    funext s
    exact congrArg (· == conn) (hf s)
  unfold entry?
  rw [List.find?_map, hsame]

/-- An entry whose peer has just sent a request. -/
def seen (peer : SocketAddress) (now : Nat) (s : Session) : Session :=
  if s.peer = peer then { s with lastSeen := now } else s

theorem untouched_seen (peer : SocketAddress) (now : Nat) (s : Session) :
    s.Untouched (seen peer now s) := by
  unfold seen
  split
  · exact Session.untouched_seen s
  · exact .refl s

theorem entry?_touch (h : Hub) (peer : SocketAddress) (now : Nat) (conn : ConnId) :
    Hub.entry? (h.touch peer now) conn = (h.entry? conn).map (seen peer now) :=
  h.entry?_map (fun s => (untouched_seen peer now s).conn) conn

theorem session?_touch (h : Hub) (peer : SocketAddress) (now : Nat) (id : Text) :
    (h.touch peer now).session? id = (h.session? id).map (seen peer now) := by
  have hsame : ((·.answersTo id) ∘ seen peer now) = fun s : Session => s.answersTo id := by
    funext s
    simp only [Function.comp, Session.answersTo, (untouched_seen peer now s).id]
  show (h.sessions.map (seen peer now)).find? (·.answersTo id) = _
  rw [List.find?_map, hsame]
  rfl

/-! ### Coherent hubs -/

/-- Every entry is coherent. -/
def Coherent (h : Hub) : Prop := ∀ s ∈ h.sessions, s.Coherent

theorem Coherent.change {h h' : Hub} (hn : h.Numbered) (hh : h.Coherent)
    (hc : Change Session.Revised h h') : h'.Coherent := by
  intro t ht
  rcases hc.mem_sessions .refl hn ht with ⟨s, hs, hr⟩ | hnew | ⟨s, hs, id, transport, rfl, -⟩
  · exact (hh s hs).revised hr
  · exact ⟨by simp [hnew.phase], by simp [hnew.phase, hnew.id], by simp [hnew.id, hnew.transport]⟩
  · exact (hh s hs).bindTransport id transport

theorem Coherent.run {h : Hub} (hn : h.Numbered) (hh : h.Coherent)
    (operations : List Operation) : (h.run operations).Coherent :=
  run_induction (fun hn hp hc => hp.change hn hc) hn hh operations

/-! ### What stays while an entry lives -/

/-- The entry of the connection of `s`, if it still lives, has the source of `s`, and its id if it
had one. -/
structure Continues (s : Session) (h : Hub) : Prop where
  below : s.conn < h.nextConn
  ssrc : ∀ t ∈ h.sessions, t.conn = s.conn → t.stream.ssrc = s.stream.ssrc
  id : ∀ t ∈ h.sessions, t.conn = s.conn → ∀ id, s.id = some id → t.id = some id

theorem Continues.of_mem {s : Session} {h : Hub} (hn : h.Numbered) (hs : s ∈ h.sessions) :
    Continues s h := by
  refine ⟨hn.below s hs, fun t ht hconn => ?_, fun t ht hconn id hid => ?_⟩
  · rw [hn.eq_of_conn ht hs hconn]
  · rw [hn.eq_of_conn ht hs hconn, hid]

theorem Continues.change {s : Session} {h h' : Hub} (hn : h.Numbered) (hs : Continues s h)
    (hc : Change Session.Revised h h') : Continues s h' := by
  refine ⟨Nat.lt_of_lt_of_le hs.below hc.nextConn_le, ?_, ?_⟩
  · intro t ht hconn
    rcases hc.mem_sessions .refl hn ht with ⟨u, hu, hr⟩ | hnew | ⟨u, hu, id, transport, rfl, -⟩
    · rw [hr.ssrc]
      exact hs.ssrc u hu (hr.conn ▸ hconn)
    · -- a number that has been given out is not given out again
      exact absurd (hnew.conn ▸ hconn) (Nat.ne_of_gt hs.below)
    · exact hs.ssrc u hu hconn
  · intro t ht hconn id hid
    rcases hc.mem_sessions .refl hn ht with ⟨u, hu, hr⟩ | hnew | ⟨u, hu, other, _, rfl, hkeep⟩
    · rw [hr.id]
      exact hs.id u hu (hr.conn ▸ hconn) id hid
    · exact absurd (hnew.conn ▸ hconn) (Nat.ne_of_gt hs.below)
    · rw [← hkeep id (hs.id u hu hconn id hid)]
      rfl

/-! ### Counting -/

theorem playingCount_le {h : Hub} (hh : h.Coherent) : h.playingCount ≤ h.sessionCount :=
  List.countP_mono_left fun s hs => (hh s hs).isSetUp_of_isPlaying

theorem sessionCount_le (h : Hub) : h.sessionCount ≤ h.connectionCount := List.countP_le_length

/-! ### PLAY -/

/-- A session that is found has a transport. -/
theorem play_eq_error {h : Hub} (hh : h.Coherent) {id : Text} {fault : Fault}
    (hp : (h.play id).1 = .error fault) : fault = .sessionNotFound id := by
  unfold play at hp
  split at hp
  · exact (Except.error.inj hp).symm
  · next s hs =>
    obtain ⟨hmem, hid⟩ := mem_of_session? hs
    split at hp
    · -- an entry with an id has a transport
      next hnone =>
      have := (hh s hmem).bound_iff.mpr (Option.isNone_iff_eq_none.mp hnone)
      rw [hid] at this
      cases this
    · cases hp

end Hub

end RtspServer
