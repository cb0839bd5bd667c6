/-
RtspServer/Proofs/Outlets.lean

Who writes where.  Every entry has an outlet of its own (`Hub.Housed`): a
connection brings a new one when it is registered, and no operation hands an
outlet from one entry to another or takes one away.

So a response never goes to the wrong connection, and what becomes of one
connection shuts no outlet but its own.
-/
import RtspServer.Proofs.Change

namespace RtspServer

theorem Media.outlets_start {m m' : Media} {id : TransportId} (hm : m.start id = .ok m') :
    m'.outlets = m.outlets := by
  obtain ⟨-, rfl⟩ := start_eq_ok_iff.mp hm
  rfl

namespace Hub

/-- No two entries write to the same outlet, and every entry writes to one that is there. -/
structure Housed (h : Hub) : Prop where
  nodup : (h.sessions.map (·.outlet)).Nodup
  below : ∀ s ∈ h.sessions, s.outlet < h.media.outlets.length

/-- Entries whose outlets were there before, with no fewer outlets, are housed as they were. -/
theorem Housed.of_sublist {h h' : Hub} (hh : h.Housed)
    (hs : (h'.sessions.map (·.outlet)).Sublist (h.sessions.map (·.outlet)))
    (hm : h'.media.outlets.length = h.media.outlets.length) : h'.Housed := by
  refine ⟨hh.nodup.sublist hs, fun t ht => ?_⟩
  obtain ⟨s, hmem, hout⟩ := List.mem_map.mp (hs.subset (List.mem_map_of_mem ht))
  rw [← hout, hm]
  exact hh.below s hmem

/-- Revising entries moves no outlet. -/
theorem Housed.of_map {h h' : Hub} (hh : h.Housed) {f : Session → Session}
    (hf : ∀ s ∈ h.sessions, (f s).outlet = s.outlet) (hs : h'.sessions = h.sessions.map f)
    (hm : h'.media.outlets.length = h.media.outlets.length) : h'.Housed := by
  have hmap : h'.sessions.map (·.outlet) = h.sessions.map (·.outlet) := by
    rw [hs, List.map_map]
    exact List.map_congr_left hf
  refine hh.of_sublist ?_ hm
  rw [hmap]

theorem outlets_stopTransport (m : Media) (s : Session) :
    (stopTransport m s).outlets = m.outlets := by
  unfold stopTransport
  split <;> rfl

theorem length_outlets_letGoAll (keepOutlet : Session → Bool) (gone : List Session) (m : Media) :
    (gone.foldl (letGo keepOutlet) m).outlets.length = m.outlets.length := by
  induction gone generalizing m with
  | nil => rfl
  | cons s rest ih =>
    rw [List.foldl_cons, ih]
    unfold letGo
    split
    · rw [outlets_stopTransport]
    · -- shutting an outlet does not take it away
      show ((stopTransport m s).outlets.modify s.outlet _).length = _
      rw [List.length_modify, outlets_stopTransport]

theorem Housed.register {h : Hub} (hh : h.Housed) (peer : SocketAddress) (outlet : Outlet)
    (now : Nat) : (h.register peer outlet now).2.Housed := by
  constructor
  · show (List.map (·.outlet) (h.sessions ++ [_])).Nodup
    rw [List.map_append, List.nodup_append]
    refine ⟨hh.nodup, by simp, ?_⟩
    rintro id hid other hother rfl
    obtain ⟨s, hs, rfl⟩ := List.mem_map.mp hid
    -- the new outlet comes after all that are there
    have hnew : s.outlet = h.media.outlets.length := by simpa using hother
    exact absurd (hnew ▸ hh.below s hs) (Nat.lt_irrefl _)
  · intro s hs
    show s.outlet < (h.media.outlets ++ [outlet]).length
    rw [List.length_append]
    rcases List.mem_append.mp hs with hs | hs
    · exact Nat.lt_succ_of_lt (hh.below s hs)
    · rw [List.mem_singleton.mp hs]
      exact Nat.lt_succ_self _

theorem Housed.setUp {h : Hub} (hh : h.Housed) (conn : ConnId) (transport : TransportId) :
    (h.setUp conn transport).2.Housed := by
  have hstart : ∀ {m}, h.media.start transport = .ok m →
      m.outlets.length = h.media.outlets.length := fun hm => by rw [Media.outlets_start hm]
  rcases h.setUp_cases conn transport with ⟨_, _, e⟩ | ⟨m, _, hm, _, e⟩ | ⟨m, s, hm, _, e⟩ <;>
    rw [e]
  · exact hh
  · have hlength := hstart hm
    exact hh.of_sublist (List.Sublist.refl _) hlength
  · have hlength : (stopTransport m s).outlets.length = h.media.outlets.length := by
      rw [outlets_stopTransport, hstart hm]
    refine hh.of_map (fun t _ => ?_) rfl hlength
    split <;> rfl

theorem Housed.change {h h' : Hub} (hh : h.Housed) (hc : Change Session.Revised h h') :
    h'.Housed := by
  cases hc with
  | register peer outlet now => exact hh.register peer outlet now
  | evict p keepOutlet =>
    refine hh.of_sublist (List.filter_sublist.map _) ?_
    exact length_outlets_letGoAll keepOutlet _ h.media
  | setUp conn transport => exact hh.setUp conn transport
  | @revise f hf =>
    exact hh.of_map (fun s hs => (hf s hs).outlet) rfl rfl
  | media hm => exact hh.of_sublist (List.Sublist.refl _) hm.outlets

theorem housed_opened (settings : Settings) (authenticator : Option Authenticator)
    (packetizer : Jpeg.Packetizer) (entropy : Entropy) (ports : PortPool)
    (linkFault : Option Text) :
    (opened settings authenticator packetizer entropy ports linkFault).Housed :=
  ⟨List.nodup_nil, fun _ hs => absurd hs List.not_mem_nil⟩

/-- **Every entry has an outlet of its own**, in every state of a run. -/
theorem housed_run (settings : Settings) (authenticator : Option Authenticator)
    (packetizer : Jpeg.Packetizer) (entropy : Entropy) (ports : PortPool)
    (linkFault : Option Text) (operations : List Operation) :
    ((opened settings authenticator packetizer entropy ports linkFault).run operations).Housed :=
  run_induction (fun _ hh hc => hh.change hc)
    (numbered_opened settings authenticator packetizer entropy ports linkFault)
    (housed_opened settings authenticator packetizer entropy ports linkFault) operations

end Hub

end RtspServer
