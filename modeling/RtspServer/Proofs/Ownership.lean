/-
RtspServer/Proofs/Ownership.lean

Who owns a transport.  A transport that SETUP has started belongs to one entry
and runs, or it belongs to nobody and has been stopped (`Hub.Owned`).  So none
is leaked when an entry goes or gets another transport, none is stopped that is
still in use, and no two entries share one.

The invariant holds because a transport starts only once.  Whatever is bound
has started before, so the transport that a SETUP starts is bound to nobody
yet, and the one it replaces is another one.
-/
import RtspServer.Proofs.Change

namespace RtspServer

namespace Standing

/-- A transport comes from one standing to another: it is started or stopped for good. -/
structure Onward (a b : Standing) : Prop where
  kind : b.kind = a.kind
  started : a.started = true → b.started = true
  stopped : a.stopped = true → b.stopped = true

theorem Onward.refl (a : Standing) : a.Onward a := ⟨rfl, id, id⟩

theorem Onward.trans {a b c : Standing} (hab : a.Onward b) (hbc : b.Onward c) : a.Onward c :=
  ⟨hbc.kind.trans hab.kind, hbc.started ∘ hab.started, hbc.stopped ∘ hab.stopped⟩

/-- A transport after it has been stopped. -/
def halt (s : Standing) : Standing := { s with stopped := true }

theorem onward_halt (s : Standing) : s.Onward s.halt := ⟨rfl, id, fun _ => rfl⟩

end Standing

namespace Hub

/-- Is a transport bound to the entry? -/
def Holds (s : Session) (id : TransportId) : Prop := s.stream.transport = some id

instance (s : Session) (id : TransportId) : Decidable (Holds s id) :=
  inferInstanceAs (Decidable (_ = _))

/-! ### Letting go -/

theorem standing?_stopTransport (m : Media) (s : Session) (id : TransportId) :
    (stopTransport m s).standing? id =
      if Holds s id then (m.standing? id).map Standing.halt else m.standing? id := by
  unfold stopTransport
  split
  · next other ho =>
    rw [Media.standing?_stop]
    by_cases he : other = id
    · rw [if_pos he, if_pos (show Holds s id from he ▸ ho)]
      rfl
    · rw [if_neg he, if_neg]
      exact fun hid => he (Option.some.inj (ho.symm.trans hid))
  · next ho =>
    rw [if_neg]
    exact fun hid => nomatch ho.symm.trans hid

theorem standing?_letGo (keepOutlet : Session → Bool) (m : Media) (s : Session)
    (id : TransportId) :
    (letGo keepOutlet m s).standing? id =
      if Holds s id then (m.standing? id).map Standing.halt else m.standing? id := by
  unfold letGo
  split
  · exact standing?_stopTransport m s id
  · rw [Media.standing?_shut, standing?_stopTransport]

/-- Letting go of entries stops what they hold and nothing else. -/
theorem standing?_letGoAll (keepOutlet : Session → Bool) (gone : List Session) (m : Media)
    (id : TransportId) :
    (gone.foldl (letGo keepOutlet) m).standing? id =
      if ∃ s ∈ gone, Holds s id then (m.standing? id).map Standing.halt else m.standing? id := by
  induction gone generalizing m with
  | nil => simp
  | cons s rest ih =>
    rw [List.foldl_cons, ih, standing?_letGo]
    -- stopping twice is stopping once
    by_cases hs : Holds s id <;> by_cases hrest : ∃ t ∈ rest, Holds t id
    · rw [if_pos hrest, if_pos hs, if_pos ⟨s, List.mem_cons_self, hs⟩, Option.map_map]
      rfl
    · rw [if_neg hrest, if_pos hs, if_pos ⟨s, List.mem_cons_self, hs⟩]
    · rw [if_pos hrest, if_neg hs, if_pos]
      obtain ⟨t, ht, hid⟩ := hrest
      exact ⟨t, List.mem_cons_of_mem _ ht, hid⟩
    · rw [if_neg hrest, if_neg hs, if_neg]
      rintro ⟨t, ht, hid⟩
      rcases List.mem_cons.mp ht with rfl | ht
      · exact hs hid
      · exact hrest ⟨t, ht, hid⟩

theorem standing?_evict (h : Hub) (p keepOutlet : Session → Bool) (id : TransportId) :
    (h.evict p keepOutlet).2.media.standing? id =
      if ∃ s ∈ h.sessions, p s = true ∧ Holds s id then (h.media.standing? id).map Standing.halt
      else h.media.standing? id := by
  show ((h.sessions.filter p).foldl (letGo keepOutlet) h.media).standing? id = _
  rw [standing?_letGoAll]
  simp only [List.mem_filter, and_assoc]

/-! ### The invariant -/

/-- A transport that has started runs for one entry, or it has been stopped and nobody has it. -/
structure Owned (h : Hub) : Prop where
  fresh : ∀ id st, h.media.standing? id = some st → st.started = false → st.stopped = false
  running : ∀ s ∈ h.sessions, ∀ id, Holds s id →
    ∃ st, h.media.standing? id = some st ∧ st.IsRunning
  stopped : ∀ id st, h.media.standing? id = some st → st.started = true →
    (∀ s ∈ h.sessions, ¬Holds s id) → st.stopped = true
  apart : ∀ s ∈ h.sessions, ∀ t ∈ h.sessions, ∀ id, Holds s id → Holds t id → s.conn = t.conn

/-- Transports that stand where they stood, or are fresh, stay owned by entries that hold what
they held. -/
theorem Owned.of_keeps {h h' : Hub} (hh : h.Owned) (hm : h.media.Keeps h'.media)
    (hto : ∀ t ∈ h'.sessions, ∀ id, Holds t id → ∃ s ∈ h.sessions, s.conn = t.conn ∧ Holds s id)
    (hfrom : ∀ s ∈ h.sessions, ∀ id, Holds s id → ∃ t ∈ h'.sessions, Holds t id) :
    h'.Owned := by
  refine ⟨?_, ?_, ?_, ?_⟩
  · intro id st hst hstarted
    rcases hm id with he | ⟨-, st', hst', hfresh⟩
    · exact hh.fresh id st (he ▸ hst) hstarted
    · rw [hst'] at hst
      exact Option.some.inj hst ▸ hfresh.2
  · intro t ht id hid
    obtain ⟨s, hs, -, hsid⟩ := hto t ht id hid
    obtain ⟨st, hst, hrun⟩ := hh.running s hs id hsid
    exact ⟨st, hm.standing hst, hrun⟩
  · intro id st hst hstarted hfree
    rcases hm id with he | ⟨-, st', hst', hfresh⟩
    · refine hh.stopped id st (he ▸ hst) hstarted fun s hs hid => ?_
      obtain ⟨t, ht, htid⟩ := hfrom s hs id hid
      exact hfree t ht htid
    · -- a transport that is new has not started
      rw [hst'] at hst
      have := hfresh.1
      rw [Option.some.inj hst, hstarted] at this
      cases this
  · intro s hs t ht id hsid htid
    obtain ⟨u, hu, hus, huid⟩ := hto s hs id hsid
    obtain ⟨v, hv, hvt, hvid⟩ := hto t ht id htid
    rw [← hus, ← hvt]
    exact hh.apart u hu v hv id huid hvid

theorem Owned.evict {h : Hub} (hn : h.Numbered) (hh : h.Owned) (p keepOutlet : Session → Bool) :
    (h.evict p keepOutlet).2.Owned := by
  have hmem : ∀ {t}, t ∈ (h.evict p keepOutlet).2.sessions ↔ t ∈ h.sessions ∧ p t = false := by
    intro t
    show t ∈ h.sessions.filter (!p ·) ↔ _
    simp [List.mem_filter]
  refine ⟨?_, ?_, ?_, ?_⟩
  · intro id st hst hstarted
    rw [standing?_evict] at hst
    split at hst
    · -- what is let go has started, so it is not fresh
      next hgone =>
      obtain ⟨s, hs, -, hid⟩ := hgone
      obtain ⟨st', hst', hrun⟩ := hh.running s hs id hid
      rw [hst'] at hst
      obtain rfl := Option.some.inj hst
      exact absurd hrun.1 (by simpa [Standing.halt] using hstarted)
    · exact hh.fresh id st hst hstarted
  · intro t ht id hid
    obtain ⟨ht, hp⟩ := hmem.mp ht
    rw [standing?_evict, if_neg]
    · exact hh.running t ht id hid
    · -- the transport of an entry that stays is not the one of an entry that goes
      rintro ⟨s, hs, hps, hsid⟩
      rw [hn.eq_of_conn hs ht (hh.apart s hs t ht id hsid hid), hp] at hps
      cases hps
  · intro id st hst hstarted hfree
    rw [standing?_evict] at hst
    split at hst
    · obtain ⟨st', -, rfl⟩ := Option.map_eq_some_iff.mp hst
      rfl
    · -- nobody held it before either, for whoever did has not gone
      next hkept =>
      refine hh.stopped id st hst hstarted fun s hs hid => ?_
      cases hp : p s with
      | true => exact hkept ⟨s, hs, hp, hid⟩
      | false => exact hfree s (hmem.mpr ⟨hs, hp⟩) hid
  · exact fun s hs t ht => hh.apart s (hmem.mp hs).1 t (hmem.mp ht).1

/-- A transport that can be started is bound to nobody. -/
theorem Owned.not_holds_of_start {h : Hub} (hh : h.Owned) {transport : TransportId} {m : Media}
    (hm : h.media.start transport = .ok m) : ∀ s ∈ h.sessions, ¬Holds s transport := by
  intro s hs hid
  obtain ⟨⟨st, hst, hfalse⟩, -⟩ := Media.start_eq_ok_iff.mp hm
  obtain ⟨st', hst', hrun⟩ := hh.running s hs transport hid
  rw [hst] at hst'
  rw [Option.some.inj hst', hrun.1] at hfalse
  cases hfalse

/-- A transport that starts was fresh, so now it runs. -/
theorem Owned.isRunning_of_start {h : Hub} (hh : h.Owned) {transport : TransportId} {m : Media}
    (hm : h.media.start transport = .ok m) :
    ∃ st, m.standing? transport = some st ∧ st.IsRunning := by
  obtain ⟨⟨st, hst, hfalse⟩, -⟩ := Media.start_eq_ok_iff.mp hm
  refine ⟨{ st with started := true }, ?_, rfl, hh.fresh transport st hst hfalse⟩
  rw [Media.standing?_start hm, if_pos rfl, hst]
  rfl

/-- The entries after a transport has been bound: the one it is bound to, and the others. -/
theorem mem_bound {h : Hub} (hn : h.Numbered) {conn : ConnId} {s : Session}
    (hs : h.entry? conn = some s) {f : Session → Session} {t : Session} :
    t ∈ h.sessions.map (fun u => if u.conn = conn then f u else u) ↔
      t = f s ∨ (t ∈ h.sessions ∧ t.conn ≠ conn) := by
  obtain ⟨hmem, hconn⟩ := mem_of_entry_eq hs
  constructor
  · intro ht
    obtain ⟨u, hu, rfl⟩ := List.mem_map.mp ht
    split
    · next hc => exact Or.inl (by rw [hn.eq_of_conn hu hmem (hc.trans hconn.symm)])
    · next hc => exact Or.inr ⟨hu, hc⟩
  · rintro (rfl | ⟨ht, hc⟩)
    · exact List.mem_map.mpr ⟨s, hmem, if_pos hconn⟩
    · exact List.mem_map.mpr ⟨t, ht, if_neg hc⟩

/-- A transport that starts for a connection which is not there is stopped at once, so nobody has
it and it is done. -/
theorem Owned.unclaimed {h : Hub} (hh : h.Owned) {transport : TransportId} {m : Media}
    (hm : h.media.start transport = .ok m) : { h with media := m.stop transport }.Owned := by
  have hne : ∀ s ∈ h.sessions, ∀ id, Holds s id → transport ≠ id := by
    rintro s hs id hid rfl
    exact hh.not_holds_of_start hm s hs hid
  refine ⟨?_, ?_, ?_, hh.apart⟩
  · intro id st hst hstarted
    rw [Media.standing?_stop, Media.standing?_start hm] at hst
    split at hst
    · obtain ⟨_, hst', rfl⟩ := Option.map_eq_some_iff.mp hst
      obtain ⟨_, -, rfl⟩ := Option.map_eq_some_iff.mp hst'
      cases hstarted
    · exact hh.fresh id st hst hstarted
  · intro t ht id hid
    rw [Media.standing?_stop, Media.standing?_start hm, if_neg (hne t ht id hid)]
    rw [if_neg (hne t ht id hid)]
    exact hh.running t ht id hid
  · intro id st hst hstarted hfree
    rw [Media.standing?_stop, Media.standing?_start hm] at hst
    split at hst
    · obtain ⟨_, -, rfl⟩ := Option.map_eq_some_iff.mp hst
      rfl
    · exact hh.stopped id st hst hstarted hfree

/-- A transport that starts for an entry becomes the one of the entry.  The one that it replaces, if
any, is another one and stops. -/
theorem Owned.claimed {h h' : Hub} (hn : h.Numbered) (hh : h.Owned) {conn : ConnId}
    {transport : TransportId} {m : Media} {s : Session} (hm : h.media.start transport = .ok m)
    (hs : h.entry? conn = some s) {name : Text} (hmedia : h'.media = stopTransport m s)
    (hsessions : h'.sessions = h.sessions.map fun t =>
      if t.conn = conn then bindTransport name transport t else t) : h'.Owned := by
  have hfree := hh.not_holds_of_start hm
  obtain ⟨hmem, hconn⟩ := mem_of_entry_eq hs
  have hentries : ∀ {t}, t ∈ h'.sessions ↔
      t = bindTransport name transport s ∨ (t ∈ h.sessions ∧ t.conn ≠ conn) := by
    intro t
    rw [hsessions]
    exact mem_bound hn hs
  have hbound : ∀ id, Holds (bindTransport name transport s) id ↔ transport = id :=
    fun id => Option.some_inj
  have hstanding : ∀ id, h'.media.standing? id =
      if Holds s id then (m.standing? id).map Standing.halt else m.standing? id := by
    intro id
    rw [hmedia]
    exact standing?_stopTransport m s id
  -- another transport than the new one stands where it stood before
  have hother : ∀ {id}, transport ≠ id → m.standing? id = h.media.standing? id := by
    intro id hne
    rw [Media.standing?_start hm, if_neg hne]
  refine ⟨?_, ?_, ?_, ?_⟩
  · intro id st hst hstarted
    rw [hstanding] at hst
    by_cases hne : transport = id
    · -- the new transport has started
      subst hne
      obtain ⟨st', hst', hrun⟩ := hh.isRunning_of_start hm
      rw [if_neg (hfree s hmem), hst'] at hst
      rw [← Option.some.inj hst, hrun.1] at hstarted
      cases hstarted
    · rw [hother hne] at hst
      split at hst
      · next hid =>
        obtain ⟨st', hst', hrun⟩ := hh.running s hmem id hid
        rw [hst'] at hst
        rw [← Option.some.inj hst] at hstarted
        exact absurd (hstarted.symm.trans hrun.1) nofun
      · exact hh.fresh id st hst hstarted
  · intro t ht id hid
    rw [hstanding]
    rcases hentries.mp ht with rfl | ⟨ht, hc⟩
    · obtain rfl := (hbound id).mp hid
      rw [if_neg (hfree s hmem)]
      exact hh.isRunning_of_start hm
    · have hne : transport ≠ id := fun he => hfree t ht (he ▸ hid)
      rw [if_neg, hother hne]
      · exact hh.running t ht id hid
      · exact fun hsid => hc ((hh.apart t ht s hmem id hid hsid).trans hconn)
  · intro id st hst hstarted hnobody
    rw [hstanding] at hst
    split at hst
    · obtain ⟨_, -, rfl⟩ := Option.map_eq_some_iff.mp hst
      rfl
    · -- neither the new one nor the old one of the entry
      next hsid =>
      have hne : transport ≠ id := fun he =>
        hnobody _ (hentries.mpr (Or.inl rfl)) ((hbound id).mpr he)
      rw [hother hne] at hst
      refine hh.stopped id st hst hstarted fun t ht hid => ?_
      by_cases hc : t.conn = conn
      · exact hsid (hn.eq_of_conn ht hmem (hc.trans hconn.symm) ▸ hid)
      · exact hnobody t (hentries.mpr (Or.inr ⟨ht, hc⟩)) hid
  · -- nobody but the entry has the new transport
    intro t ht u hu id htid huid
    rcases hentries.mp ht with rfl | ⟨ht, -⟩ <;> rcases hentries.mp hu with rfl | ⟨hu, -⟩
    · rfl
    · exact absurd huid ((hbound id).mp htid ▸ hfree u hu)
    · exact absurd htid ((hbound id).mp huid ▸ hfree t ht)
    · exact hh.apart t ht u hu id htid huid

theorem Owned.setUp {h : Hub} (hn : h.Numbered) (hh : h.Owned) (conn : ConnId)
    (transport : TransportId) : (h.setUp conn transport).2.Owned := by
  rcases h.setUp_cases conn transport with ⟨_, _, e⟩ | ⟨m, _, hm, _, e⟩ | ⟨m, s, hm, hs, e⟩ <;>
    rw [e]
  · exact hh
  · exact hh.unclaimed hm
  · exact hh.claimed hn hm hs rfl rfl

theorem Owned.change {h h' : Hub} (hn : h.Numbered) (hh : h.Owned)
    (hc : Change Session.Revised h h') : h'.Owned := by
  cases hc with
  | register peer outlet now =>
    refine hh.of_keeps (.of_eq rfl) ?_ ?_
    · intro t ht id hid
      rcases List.mem_append.mp ht with ht | ht
      · exact ⟨t, ht, rfl, hid⟩
      · rw [List.mem_singleton.mp ht] at hid
        cases hid
    · exact fun s hs id hid => ⟨s, List.mem_append_left _ hs, hid⟩
  | evict p keepOutlet => exact hh.evict hn p keepOutlet
  | setUp conn transport => exact hh.setUp hn conn transport
  | revise hf =>
    refine hh.of_keeps (.refl _) ?_ ?_
    · intro t ht id hid
      obtain ⟨s, hs, rfl⟩ := List.mem_map.mp ht
      exact ⟨s, hs, (hf s hs).conn.symm, (hf s hs).transport.symm.trans hid⟩
    · intro s hs id hid
      exact ⟨_, List.mem_map_of_mem hs, (hf s hs).transport.trans hid⟩
  | media hm =>
    refine hh.of_keeps hm.keeps ?_ ?_
    · exact fun t ht id hid => ⟨t, ht, rfl, hid⟩
    · exact fun s hs id hid => ⟨s, hs, hid⟩

theorem Owned.changes {h h' : Hub} (hn : h.Numbered) (hh : h.Owned)
    (hc : Changes Session.Revised h h') : h'.Owned :=
  changes_induction (fun _ _ hr => hr) (fun hn hp hc => hp.change hn hc) hn hh hc

theorem Owned.run {h : Hub} (hn : h.Numbered) (hh : h.Owned) (operations : List Operation) :
    (h.run operations).Owned :=
  hh.changes hn (changes_run hn operations)

/-! ### From one state of a run to a later one -/

/-- Transports stay, and are started and stopped for good. -/
theorem Change.onward {R : Session → Session → Prop} {h h' : Hub} (hc : Change R h h')
    {id : TransportId} {st : Standing} (hst : h.media.standing? id = some st) :
    ∃ st', h'.media.standing? id = some st' ∧ st.Onward st' := by
  cases hc with
  | register peer outlet now => exact ⟨st, hst, .refl st⟩
  | evict p keepOutlet =>
    rw [standing?_evict, hst]
    split
    · exact ⟨st.halt, rfl, st.onward_halt⟩
    · exact ⟨st, rfl, .refl st⟩
  | setUp conn transport =>
    have hstart : ∀ {m}, h.media.start transport = .ok m →
        ∃ st', m.standing? id = some st' ∧ st.Onward st' := fun hm => by
      rw [Media.standing?_start hm, hst]
      split
      · exact ⟨_, rfl, rfl, fun _ => rfl, fun hs => hs⟩
      · exact ⟨st, rfl, .refl st⟩
    rcases h.setUp_cases conn transport with ⟨_, _, e⟩ | ⟨m, _, hm, _, e⟩ | ⟨m, s, hm, _, e⟩ <;>
      rw [e]
    · exact ⟨st, hst, .refl st⟩
    · obtain ⟨st', hst', hon⟩ := hstart hm
      rw [Media.standing?_stop, hst']
      split
      · exact ⟨st'.halt, rfl, hon.trans st'.onward_halt⟩
      · exact ⟨st', rfl, hon⟩
    · obtain ⟨st', hst', hon⟩ := hstart hm
      rw [standing?_stopTransport, hst']
      split
      · exact ⟨st'.halt, rfl, hon.trans st'.onward_halt⟩
      · exact ⟨st', rfl, hon⟩
  | revise hf => exact ⟨st, hst, .refl st⟩
  | media hm => exact ⟨st, hm.keeps.standing hst, .refl st⟩

theorem Changes.onward {R : Session → Session → Prop} {h h' : Hub} (hc : Changes R h h')
    {id : TransportId} {st : Standing} (hst : h.media.standing? id = some st) :
    ∃ st', h'.media.standing? id = some st' ∧ st.Onward st' := by
  induction hc with
  | refl => exact ⟨st, hst, .refl st⟩
  | tail _ hstep ih =>
    obtain ⟨st', hst', hon⟩ := ih
    obtain ⟨st'', hst'', hon'⟩ := hstep.onward hst'
    exact ⟨st'', hst'', hon.trans hon'⟩

/-- An entry that has a transport which had started before had it before. -/
theorem Change.held {h h' : Hub} (hn : h.Numbered) (hc : Change Session.Revised h h')
    {id : TransportId} {st : Standing} (hst : h.media.standing? id = some st)
    (hstarted : st.started = true) {t : Session} (ht : t ∈ h'.sessions) (hid : Holds t id) :
    ∃ s ∈ h.sessions, s.conn = t.conn ∧ Holds s id := by
  cases hc with
  | register peer outlet now =>
    rcases List.mem_append.mp ht with ht | ht
    · exact ⟨t, ht, rfl, hid⟩
    · rw [List.mem_singleton.mp ht] at hid
      cases hid
  | evict p keepOutlet => exact ⟨t, (List.mem_filter.mp ht).1, rfl, hid⟩
  | setUp conn transport =>
    rcases h.setUp_cases conn transport with ⟨_, _, e⟩ | ⟨_, _, _, _, e⟩ | ⟨m, s, hm, hs, e⟩ <;>
      rw [e] at ht
    · exact ⟨t, ht, rfl, hid⟩
    · exact ⟨t, ht, rfl, hid⟩
    · rcases (mem_bound hn hs).mp ht with rfl | ⟨ht, -⟩
      · -- the transport that was bound had not started
        obtain rfl : transport = id := Option.some.inj hid
        obtain ⟨⟨st', hst', hfresh⟩, -⟩ := Media.start_eq_ok_iff.mp hm
        rw [hst] at hst'
        rw [← Option.some.inj hst', hstarted] at hfresh
        cases hfresh
      · exact ⟨t, ht, rfl, hid⟩
  | revise hf =>
    obtain ⟨s, hs, rfl⟩ := List.mem_map.mp ht
    exact ⟨s, hs, (hf s hs).conn.symm, (hf s hs).transport.symm.trans hid⟩
  | media hm => exact ⟨t, ht, rfl, hid⟩

theorem Changes.held {h h' : Hub} (hn : h.Numbered) (hc : Changes Session.Revised h h')
    {id : TransportId} {st : Standing} (hst : h.media.standing? id = some st)
    (hstarted : st.started = true) {t : Session} (ht : t ∈ h'.sessions) (hid : Holds t id) :
    ∃ s ∈ h.sessions, s.conn = t.conn ∧ Holds s id := by
  induction hc generalizing t with
  | refl => exact ⟨t, ht, rfl, hid⟩
  | tail hpre hstep ih =>
    -- it has still started when the last change comes
    obtain ⟨st', hst', hon⟩ := Changes.onward hpre hst
    obtain ⟨s, hs, hconn, hsid⟩ := hstep.held (hn.changes hpre) hst' (hon.started hstarted) ht hid
    obtain ⟨u, hu, hconn', huid⟩ := ih hs hsid
    exact ⟨u, hu, hconn'.trans hconn, huid⟩

/-- A transport that its entry no longer has after some changes has been stopped by them. -/
theorem Owned.stopped_of_left {h h' : Hub} (hn : h.Numbered) (hh : h.Owned)
    (hc : Changes Session.Revised h h') {s : Session} (hs : s ∈ h.sessions) {id : TransportId}
    (hid : Holds s id) (hleft : ∀ t ∈ h'.sessions, t.conn = s.conn → ¬Holds t id) :
    ∃ st, h'.media.standing? id = some st ∧ st.IsDone := by
  obtain ⟨st, hst, hrun⟩ := hh.running s hs id hid
  obtain ⟨st', hst', hon⟩ := hc.onward hst
  have hh' : h'.Owned := hh.changes hn hc
  refine ⟨st', hst', hon.started hrun.1, hh'.stopped id st' hst' (hon.started hrun.1) ?_⟩
  intro t ht htid
  -- whoever has it now had it before, and then it was this entry
  obtain ⟨u, hu, hconn, huid⟩ := hc.held hn hst hrun.1 ht htid
  exact hleft t ht (hconn ▸ hh.apart u hu s hs id huid hid) htid

/-! ### What SETUP does with a transport -/

/-- A transport that has started is that of one entry, or it is done. -/
theorem Owned.owner_or_done {h : Hub} (hn : h.Numbered) (hh : h.Owned) {id : TransportId}
    {t : Transport} (ht : h.media.transports[id]? = some t) (hstarted : t.started = true) :
    (t.stopped = false ∧ ∃! s, s ∈ h.sessions ∧ s.stream.transport = some id) ∨
      (t.stopped = true ∧ ∀ s ∈ h.sessions, s.stream.transport ≠ some id) := by
  have hst := Media.standing?_of_getElem? ht
  by_cases hheld : ∃ s ∈ h.sessions, Holds s id
  · obtain ⟨s, hs, hid⟩ := hheld
    obtain ⟨st, hst', hrun⟩ := hh.running s hs id hid
    rw [hst] at hst'
    refine Or.inl ⟨?_, s, ⟨hs, hid⟩, ?_⟩
    · exact (congrArg Standing.stopped (Option.some.inj hst')).trans hrun.2
    · rintro u ⟨hu, huid⟩
      exact hn.eq_of_conn hu hs (hh.apart u hu s hs id huid hid)
  · have hfree : ∀ s ∈ h.sessions, ¬Holds s id := fun s hs hid => hheld ⟨s, hs, hid⟩
    exact Or.inr ⟨hh.stopped id _ hst hstarted hfree, hfree⟩

/-- With nobody there the transport is stopped, and nothing else happens. -/
theorem Owned.setUp_of_entry_none {h : Hub} (hh : h.Owned) {conn : ConnId} {id : TransportId}
    {m : Media} (hm : h.media.start id = .ok m) (hconn : h.entry? conn = none) :
    ∃ fault, h.setUp conn id = (.error fault, { h with media := m.stop id }) ∧
      ∃ t, (m.stop id).transports[id]? = some t ∧ t.started = true ∧ t.stopped = true := by
  obtain ⟨st, hst, hrun⟩ := hh.isRunning_of_start hm
  have hstop : (m.stop id).standing? id = some st.halt := by
    rw [Media.standing?_stop, if_pos rfl, hst]
    rfl
  obtain ⟨t, ht, hts⟩ := Media.getElem?_of_standing? hstop
  rcases h.setUp_cases conn id with ⟨_, hm', _⟩ | ⟨m', fault, hm', _, e⟩ | ⟨_, _, _, hs, _⟩
  · exact absurd (hm.symm.trans hm') nofun
  · obtain rfl := Except.ok.inj (hm.symm.trans hm')
    refine ⟨fault, e, t, ht, ?_, ?_⟩
    · exact (congrArg Standing.started hts).trans hrun.1
    · exact congrArg Standing.stopped hts
  · exact absurd (hconn.symm.trans hs) nofun

theorem setUp_of_start_error (h : Hub) {conn : ConnId} {id : TransportId} {fault : Fault}
    (hm : h.media.start id = .error fault) : h.setUp conn id = (.error fault, h) := by
  rcases h.setUp_cases conn id with ⟨_, hm', e⟩ | ⟨_, _, hm', _, _⟩ | ⟨_, _, hm', _, _⟩
  · rw [e, Except.error.inj (hm.symm.trans hm')]
  · exact absurd (hm.symm.trans hm') nofun
  · exact absurd (hm.symm.trans hm') nofun

theorem Numbered.setUp_of_entry {h : Hub} (hn : h.Numbered) {conn : ConnId} {id : TransportId}
    {m : Media} {s : Session} (hm : h.media.start id = .ok m) (hs : h.entry? conn = some s) :
    ∃ reply after, h.setUp conn id = (.ok reply, after) ∧
      ∃ t ∈ after.sessions, t.conn = conn ∧ t.stream.transport = some id := by
  rcases h.setUp_cases conn id with ⟨_, hm', _⟩ | ⟨_, _, _, hnone, _⟩ | ⟨_, _, _, hs', e⟩
  · exact absurd (hm.symm.trans hm') nofun
  · exact absurd (hnone.symm.trans hs) nofun
  · exact ⟨_, _, e, _, (mem_bound hn hs').mpr (Or.inl rfl), (mem_of_entry_eq hs').2, rfl⟩

/-! ### After any run -/

section Opened

variable (settings : Settings) (authenticator : Option Authenticator)
  (packetizer : Jpeg.Packetizer) (entropy : Entropy) (ports : PortPool) (linkFault : Option Text)

theorem owned_opened :
    (opened settings authenticator packetizer entropy ports linkFault).Owned := by
  refine ⟨?_, ?_, ?_, ?_⟩
  · intro id st hst
    cases hst
  · exact fun _ hs => absurd hs List.not_mem_nil
  · intro id st hst
    cases hst
  · exact fun _ hs => absurd hs List.not_mem_nil

/-- **Transports are owned.**  After any run of a hub that was opened without connections:

* a transport that has started belongs to exactly one entry and has not been stopped, or it
  belongs to none and has been stopped;
* no two entries have the same transport;
* the transport of an entry has started and has not been stopped;
* whatever the next operation is, a transport that its entry loses by it is stopped after it;
* a transport that starts for a connection which is not there is stopped, and nothing else
  happens;
* a transport that does not start changes nothing;
* a transport that starts for a connection which is there becomes the one of its entry;
* whatever happens next, a transport that has started or been stopped stays so. -/
theorem transport_ownership (operations : List Operation) :
    let h := (opened settings authenticator packetizer entropy ports linkFault).run operations
    (∀ id t, h.media.transports[id]? = some t → t.started = true →
      (t.stopped = false ∧ ∃! s, s ∈ h.sessions ∧ s.stream.transport = some id) ∨
        (t.stopped = true ∧ ∀ s ∈ h.sessions, s.stream.transport ≠ some id)) ∧
    (h.sessions.Pairwise fun s t => ∀ id, s.stream.transport = some id →
      t.stream.transport ≠ some id) ∧
    (∀ s ∈ h.sessions, ∀ id, s.stream.transport = some id →
      ∃ t, h.media.transports[id]? = some t ∧ t.started = true ∧ t.stopped = false) ∧
    (∀ operation, let after := (h.perform operation).2
      ∀ s ∈ h.sessions, ∀ id, s.stream.transport = some id →
        (∀ t ∈ after.sessions, t.conn = s.conn → t.stream.transport ≠ some id) →
        ∃ t, after.media.transports[id]? = some t ∧ t.started = true ∧ t.stopped = true) ∧
    (∀ conn id m, h.media.start id = .ok m → h.entry? conn = none →
      ∃ fault, h.setUp conn id = (.error fault, { h with media := m.stop id }) ∧
        ∃ t, (m.stop id).transports[id]? = some t ∧ t.started = true ∧ t.stopped = true) ∧
    (∀ conn id fault, h.media.start id = .error fault → h.setUp conn id = (.error fault, h)) ∧
    (∀ conn id m s, h.media.start id = .ok m → h.entry? conn = some s →
      ∃ reply after, h.setUp conn id = (.ok reply, after) ∧
        ∃ t ∈ after.sessions, t.conn = conn ∧ t.stream.transport = some id) ∧
    ∀ (next : List Operation) (id : TransportId) (t : Transport), h.media.transports[id]? = some t →
      ∃ t', (h.run next).media.transports[id]? = some t' ∧
        (t.started = true → t'.started = true) ∧ (t.stopped = true → t'.stopped = true) := by
  intro h
  have hn₀ := numbered_opened settings authenticator packetizer entropy ports linkFault
  have hn : h.Numbered := numbered_run hn₀ operations
  have hh : h.Owned :=
    (owned_opened settings authenticator packetizer entropy ports linkFault).run hn₀ operations
  refine ⟨fun id t ht hstarted => hh.owner_or_done hn ht hstarted, ?_, ?_, ?_,
    fun conn id m hm hconn => hh.setUp_of_entry_none hm hconn,
    fun conn id fault hm => setUp_of_start_error h hm,
    fun conn id m s hm hs => hn.setUp_of_entry hm hs, ?_⟩
  · have hconns : h.sessions.Pairwise fun s t => s.conn ≠ t.conn := List.pairwise_map.mp hn.nodup
    exact hconns.imp_of_mem fun hs ht hne id hsid htid => hne (hh.apart _ hs _ ht id hsid htid)
  · intro s hs id hid
    obtain ⟨st, hst, hrun⟩ := hh.running s hs id hid
    obtain ⟨t, ht, rfl⟩ := Media.getElem?_of_standing? hst
    exact ⟨t, ht, hrun⟩
  · intro operation after s hs id hid hleft
    obtain ⟨st, hst, hdone⟩ := hh.stopped_of_left hn (changes_perform hn operation) hs hid hleft
    obtain ⟨t, ht, rfl⟩ := Media.getElem?_of_standing? hst
    exact ⟨t, ht, hdone⟩
  · intro next id t ht
    obtain ⟨st, hst, hon⟩ := Changes.onward (changes_run hn next) (Media.standing?_of_getElem? ht)
    obtain ⟨t', ht', rfl⟩ := Media.getElem?_of_standing? hst
    exact ⟨t', ht', hon.started, hon.stopped⟩

end Opened

end Hub

end RtspServer
