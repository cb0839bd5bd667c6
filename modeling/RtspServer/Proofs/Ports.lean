/-
RtspServer/Proofs/Ports.lean

Which pair of ports a range gives.  A pair is free if it lies in the range, its
first port is even and nobody holds either port (`PortPool.Free`).  Probing
finds the lowest free pair, or there is none (`PortPool.reserve_cases`).
-/
import RtspServer.Transport.Ports
import Mathlib.Tactic.Common

namespace RtspServer

namespace PortPool

/-- An even port with its odd neighbour, both in a range and held by nobody. -/
structure Free (p : PortPool) (first limit : UInt16) (pair : PortPair) : Prop where
  even : pair.rtp.toNat % 2 = 0
  next : pair.rtcp.toNat = pair.rtp.toNat + 1
  first : first ≤ pair.rtp
  limit : pair.rtcp < limit
  rtp : pair.rtp ∉ p.taken
  rtcp : pair.rtcp ∉ p.taken

variable {p : PortPool}

/-- Both ports of a pair are held, or at least one is held by someone else. -/
theorem holdPair?_cases (p : PortPool) {port : Nat} (hport : port + 1 < UInt16.size) :
    (UInt16.ofNat port ∉ p.taken ∧ UInt16.ofNat (port + 1) ∉ p.taken ∧
      p.holdPair? port = some (⟨UInt16.ofNat port, UInt16.ofNat (port + 1)⟩,
        ⟨UInt16.ofNat (port + 1) :: UInt16.ofNat port :: p.taken⟩)) ∨
    ((UInt16.ofNat port ∈ p.taken ∨ UInt16.ofNat (port + 1) ∈ p.taken) ∧
      p.holdPair? port = none) := by
  have hne : UInt16.ofNat (port + 1) ≠ UInt16.ofNat port := by
    intro h
    have := congrArg UInt16.toNat h
    rw [UInt16.toNat_ofNat_of_lt' hport, UInt16.toNat_ofNat_of_lt' (Nat.lt_of_succ_lt hport)] at this
    omega
  unfold holdPair?
  generalize UInt16.ofNat (port + 1) = rtcp at hne ⊢
  generalize UInt16.ofNat port = rtp at hne ⊢
  by_cases hrtp : rtp ∈ p.taken
  · exact Or.inr ⟨Or.inl hrtp, by simp [hold?, hrtp]⟩
  · by_cases hrtcp : rtcp ∈ p.taken
    · exact Or.inr ⟨Or.inr hrtcp, by simp [hold?, hrtp, hrtcp]⟩
    · exact Or.inl ⟨hrtp, hrtcp, by simp [hold?, hrtp, hrtcp, hne]⟩

/-- Probing from a port on finds the lowest pair, at an even distance, of which nobody holds a port;
or there is none below the limit. -/
theorem probe_cases (p : PortPool) {limit : Nat} (hlimit : limit ≤ UInt16.size) (port : Nat) :
    (∃ k, port + 2 * k + 1 < limit ∧
      UInt16.ofNat (port + 2 * k) ∉ p.taken ∧ UInt16.ofNat (port + 2 * k + 1) ∉ p.taken ∧
      (∀ j < k, UInt16.ofNat (port + 2 * j) ∈ p.taken ∨
        UInt16.ofNat (port + 2 * j + 1) ∈ p.taken) ∧
      p.probe limit port =
        some (⟨UInt16.ofNat (port + 2 * k), UInt16.ofNat (port + 2 * k + 1)⟩,
          ⟨UInt16.ofNat (port + 2 * k + 1) :: UInt16.ofNat (port + 2 * k) :: p.taken⟩)) ∨
    ((∀ k, port + 2 * k + 1 < limit → UInt16.ofNat (port + 2 * k) ∈ p.taken ∨
        UInt16.ofNat (port + 2 * k + 1) ∈ p.taken) ∧ p.probe limit port = none) := by
  fun_induction probe p limit port with
  | case1 port hport found hfound =>
    rcases p.holdPair?_cases (Nat.lt_of_lt_of_le hport hlimit) with ⟨hrtp, hrtcp, e⟩ | ⟨-, e⟩
    · refine Or.inl ⟨0, hport, hrtp, hrtcp, fun j hj => absurd hj (Nat.not_lt_zero j), ?_⟩
      exact hfound.symm.trans e
    · exact absurd (e.symm.trans hfound) nofun
  | case2 port hport hnone ih =>
    have htaken : UInt16.ofNat port ∈ p.taken ∨ UInt16.ofNat (port + 1) ∈ p.taken := by
      rcases p.holdPair?_cases (Nat.lt_of_lt_of_le hport hlimit) with ⟨-, -, e⟩ | ⟨htaken, -⟩
      · exact absurd (hnone.symm.trans e) nofun
      · exact htaken
    -- what lies two ports on from here lies one pair further on from there
    have hshift : ∀ k, port + 2 * (k + 1) = port + 2 + 2 * k := fun k => by omega
    rcases ih with ⟨k, hk, hrtp, hrtcp, hbefore, e⟩ | ⟨hall, e⟩
    · refine Or.inl ⟨k + 1, ?_⟩
      rw [hshift]
      refine ⟨hk, hrtp, hrtcp, fun j hj => ?_, e⟩
      rcases j with - | j
      · exact htaken
      · rw [hshift]
        exact hbefore j (Nat.lt_of_succ_lt_succ hj)
    · refine Or.inr ⟨fun k hk => ?_, e⟩
      rcases k with - | k
      · exact htaken
      · rw [hshift] at hk ⊢
        exact hall k hk
  | case3 port hport => exact Or.inr ⟨fun k hk => absurd (Nat.lt_of_le_of_lt (by omega) hk) hport, rfl⟩

/-- **The lowest free pair of a range** is reserved, if there is one. -/
theorem reserve_cases (p : PortPool) (first limit : UInt16) :
    (∃ pair, p.Free first limit pair ∧ (∀ other, p.Free first limit other → pair.rtp ≤ other.rtp) ∧
      p.reserve first limit = .ok (pair, ⟨pair.rtcp :: pair.rtp :: p.taken⟩)) ∨
    ((∀ pair, ¬p.Free first limit pair) ∧
      p.reserve first limit = .error (.portsExhausted first limit)) := by
  have hlimit : limit.toNat ≤ UInt16.size := Nat.le_of_lt limit.toNat_lt
  set start := first.toNat + first.toNat % 2 with hstart
  -- a free pair begins at an even distance from where probing starts
  have hplace : ∀ pair, p.Free first limit pair → ∃ k, pair.rtp = UInt16.ofNat (start + 2 * k) ∧
      pair.rtcp = UInt16.ofNat (start + 2 * k + 1) ∧ start + 2 * k + 1 < limit.toNat ∧
      pair.rtp.toNat = start + 2 * k := by
    intro pair hfree
    have heven := hfree.even
    have hfirst : first.toNat ≤ pair.rtp.toNat := UInt16.le_iff_toNat_le.mp hfree.first
    have hbelow : pair.rtcp.toNat < limit.toNat := UInt16.lt_iff_toNat_lt.mp hfree.limit
    have hk : pair.rtp.toNat = start + 2 * ((pair.rtp.toNat - start) / 2) := by omega
    refine ⟨(pair.rtp.toNat - start) / 2, ?_, ?_, ?_, hk⟩
    · rw [← hk, UInt16.ofNat_toNat]
    · rw [← hk, ← hfree.next, UInt16.ofNat_toNat]
    · rw [← hk, ← hfree.next]
      exact hbelow
  rcases p.probe_cases hlimit start with ⟨k, hk, hrtp, hrtcp, hbefore, e⟩ | ⟨hall, e⟩
  · have hsize : start + 2 * k + 1 < UInt16.size := Nat.lt_of_lt_of_le hk hlimit
    have htoNat := UInt16.toNat_ofNat_of_lt' (Nat.lt_of_succ_lt hsize)
    have htoNat' := UInt16.toNat_ofNat_of_lt' hsize
    refine Or.inl ⟨⟨UInt16.ofNat (start + 2 * k), UInt16.ofNat (start + 2 * k + 1)⟩,
      ⟨?_, ?_, ?_, ?_, hrtp, hrtcp⟩, ?_, ?_⟩
    · show (UInt16.ofNat (start + 2 * k)).toNat % 2 = 0
      omega
    · show (UInt16.ofNat (start + 2 * k + 1)).toNat = (UInt16.ofNat (start + 2 * k)).toNat + 1
      omega
    · rw [UInt16.le_iff_toNat_le]
      show first.toNat ≤ (UInt16.ofNat (start + 2 * k)).toNat
      omega
    · rw [UInt16.lt_iff_toNat_lt]
      show (UInt16.ofNat (start + 2 * k + 1)).toNat < limit.toNat
      omega
    · intro other hother
      obtain ⟨j, hj, hj', -, hnat⟩ := hplace other hother
      rw [UInt16.le_iff_toNat_le]
      show (UInt16.ofNat (start + 2 * k)).toNat ≤ other.rtp.toNat
      rcases Nat.lt_or_ge j k with hlt | hle
      · -- a lower pair would have been found
        rcases hbefore j hlt with htaken | htaken
        · exact absurd (hj ▸ htaken) hother.rtp
        · exact absurd (hj' ▸ htaken) hother.rtcp
      · omega
    · rw [reserve, e]
  · refine Or.inr ⟨fun pair hfree => ?_, by rw [reserve, e]⟩
    obtain ⟨k, hk, hk', hbelow, -⟩ := hplace pair hfree
    rcases hall k hbelow with htaken | htaken
    · exact hfree.rtp (hk ▸ htaken)
    · exact hfree.rtcp (hk' ▸ htaken)

end PortPool

end RtspServer
