/-
RtspServer/Proofs/Probing.lean

Probing call by call.  `PortPool.probe` says which pair is found; here is what is
asked of the host on the way to it (`PortPool.probeCalls`): the even port, and if
it can be bound the odd one, and if that cannot be bound the even one is closed
before the probe goes on two ports further up.

Made one after the other, the calls are answered as they are written down here,
and what they leave behind is what `probe` says: the two ports of the pair that
was found, or nothing (`PortPool.follow_probeCalls`).  No call is for a number
that sixteen bits do not hold, and there are at most three calls for every two
ports of the range.
-/
import RtspServer.Proofs.Ports

namespace RtspServer

/-- A call to the host about a port, and how the host answers it.  The port is a plain number, as it
is counted up, and not yet a word. -/
inductive PortCall where
  /-- A socket is bound to the port. -/
  | bound (port : Nat)
  /-- No socket is bound to the port, since another one is. -/
  | refused (port : Nat)
  /-- The socket on the port is closed. -/
  | closed (port : Nat)
  deriving DecidableEq, Repr

/-- The port that a call is about. -/
def PortCall.port : PortCall → Nat
  | .bound port | .refused port | .closed port => port

namespace PortPool

/-- The ports that are held after a call, if the host answers it so. -/
def follow? (p : PortPool) : PortCall → Option PortPool
  | .bound port => p.hold? (UInt16.ofNat port)
  | .refused port => if p.taken.contains (UInt16.ofNat port) then some p else none
  | .closed port =>
    if p.taken.contains (UInt16.ofNat port) then some (p.release (UInt16.ofNat port)) else none

/-- The calls of a probe at `port`, `port + 2`, … whose second port lies below the limit. -/
def probeCalls (p : PortPool) (limit port : Nat) : List PortCall :=
  if port + 1 < limit then
    match p.hold? (UInt16.ofNat port) with
    | none => .refused port :: probeCalls p limit (port + 2)
    | some one =>
      match one.hold? (UInt16.ofNat (port + 1)) with
      | some _ => [.bound port, .bound (port + 1)]
      | none =>
        .bound port :: .refused (port + 1) :: .closed port ::
          probeCalls (one.release (UInt16.ofNat port)) limit (port + 2)
  else []
  termination_by limit - port

/-! ### Single calls -/

theorem hold?_eq_some_iff {p one : PortPool} {port : UInt16} :
    p.hold? port = some one ↔ port ∉ p.taken ∧ one = ⟨port :: p.taken⟩ := by
  unfold hold?
  by_cases h : port ∈ p.taken <;> simp [h, eq_comm]

theorem hold?_eq_none_iff {p : PortPool} {port : UInt16} :
    p.hold? port = none ↔ port ∈ p.taken := by
  unfold hold?
  by_cases h : port ∈ p.taken <;> simp [h]

/-- A port that is bound and closed leaves nothing behind. -/
theorem release_of_hold? {p one : PortPool} {port : UInt16} (h : p.hold? port = some one) :
    one.release port = p := by
  obtain ⟨hfree, rfl⟩ := hold?_eq_some_iff.mp h
  have hkeep : p.taken.filter (· != port) = p.taken :=
    List.filter_eq_self.mpr fun other hother => bne_iff_ne.mpr fun he => hfree (he ▸ hother)
  rw [release, List.filter_cons_of_neg (by simp), hkeep]

/-- Once the even port is held, the pair is held if the odd one can be. -/
theorem holdPair?_of_hold? {p one : PortPool} {port : Nat}
    (h : p.hold? (UInt16.ofNat port) = some one) :
    p.holdPair? port = (one.hold? (UInt16.ofNat (port + 1))).map
      (⟨UInt16.ofNat port, UInt16.ofNat (port + 1)⟩, ·) := by
  rw [holdPair?, h]
  show (one.hold? (UInt16.ofNat (port + 1))).bind (fun both => some (_, both)) = _
  rcases one.hold? (UInt16.ofNat (port + 1)) with - | both
  · rfl
  · rfl

theorem follow?_refused {p : PortPool} {port : Nat} (h : p.hold? (UInt16.ofNat port) = none) :
    p.follow? (.refused port) = some p :=
  if_pos (List.contains_iff_mem.mpr (hold?_eq_none_iff.mp h))

theorem follow?_closed {p one : PortPool} {port : Nat}
    (h : p.hold? (UInt16.ofNat port) = some one) : one.follow? (.closed port) = some p := by
  have hmem : one.taken.contains (UInt16.ofNat port) = true := by
    obtain ⟨-, rfl⟩ := hold?_eq_some_iff.mp h
    simp
  rw [follow?, if_pos hmem, release_of_hold? h]

/-! ### The whole probe -/

variable {p : PortPool} {limit port : Nat}

/-- The calls of a probe are answered as they are said to be, and what they leave behind is the pair
that was found, or nothing. -/
theorem follow_probeCalls (p : PortPool) (limit port : Nat) :
    (p.probeCalls limit port).foldlM follow? p =
      some (((p.probe limit port).map (·.2)).getD p) := by
  fun_induction probeCalls p limit port with
  | case1 p port hport heven ih =>
    -- the even port is taken
    have hpair : p.holdPair? port = none := by simp [holdPair?, heven]
    rw [List.foldlM_cons, follow?_refused heven, probe, if_pos hport, hpair]
    exact ih
  | case2 p port hport one heven both hodd =>
    have hpair : p.holdPair? port =
        some (⟨UInt16.ofNat port, UInt16.ofNat (port + 1)⟩, both) := by
      rw [holdPair?_of_hold? heven, hodd]
      rfl
    rw [probe, if_pos hport, hpair]
    show (p.hold? (UInt16.ofNat port)).bind (fun one => _) = some both
    rw [heven]
    show (one.hold? (UInt16.ofNat (port + 1))).bind (fun both => _) = some both
    rw [hodd]
    rfl
  | case3 p port hport one heven hodd ih =>
    -- the even port is bound, the odd one is taken, and the even one is closed again
    have hpair : p.holdPair? port = none := by
      rw [holdPair?_of_hold? heven, hodd]
      rfl
    have hthree : ∀ calls, (.bound port :: .refused (port + 1) :: .closed port :: calls).foldlM
        follow? p = calls.foldlM follow? p := by
      intro calls
      rw [List.foldlM_cons, follow?, heven]
      show (_ :: _ :: calls).foldlM follow? one = _
      rw [List.foldlM_cons, follow?_refused hodd]
      show (_ :: calls).foldlM follow? one = _
      rw [List.foldlM_cons, follow?_closed heven]
      rfl
    rw [release_of_hold? heven] at ih ⊢
    rw [hthree, probe, if_pos hport, hpair]
    exact ih
  | case4 p port hport =>
    rw [probe, if_neg hport]
    rfl

/-- Port 41003 is taken, so 41002 is bound in vain and closed. -/
example : probeCalls ⟨[41003]⟩ 42000 41002 =
    [.bound 41002, .refused 41003, .closed 41002, .bound 41004, .bound 41005] := by
  cbv

/-- A probe asks for ports from where it starts up to the limit. -/
theorem port_of_mem_probeCalls {c : PortCall} (hc : c ∈ p.probeCalls limit port) :
    port ≤ c.port ∧ c.port < limit := by
  fun_induction probeCalls p limit port with
  | case1 p port hport heven ih =>
    rcases List.mem_cons.mp hc with rfl | hc
    · exact ⟨Nat.le_refl port, Nat.lt_of_succ_lt hport⟩
    · obtain ⟨hfirst, hlimit⟩ := ih hc
      exact ⟨by omega, hlimit⟩
  | case2 p port hport one heven both hodd =>
    have hall : c.port = port ∨ c.port = port + 1 := by
      simp only [List.mem_cons, List.not_mem_nil, or_false] at hc
      rcases hc with rfl | rfl
      · exact .inl rfl
      · exact .inr rfl
    omega
  | case3 p port hport one heven hodd ih =>
    simp only [List.mem_cons] at hc
    rcases hc with rfl | rfl | rfl | hc
    · exact ⟨Nat.le_refl port, Nat.lt_of_succ_lt hport⟩
    · exact ⟨Nat.le_succ port, hport⟩
    · exact ⟨Nat.le_refl port, Nat.lt_of_succ_lt hport⟩
    · obtain ⟨hfirst, hlimit⟩ := ih hc
      exact ⟨by omega, hlimit⟩
  | case4 => cases hc

/-- A probe ends after three calls for every two ports at most. -/
theorem length_probeCalls_le (p : PortPool) (limit port : Nat) :
    2 * (p.probeCalls limit port).length ≤ 3 * (limit - port) := by
  fun_induction probeCalls p limit port with
  | case1 p port hport heven ih =>
    rw [List.length_cons]
    omega
  | case2 p port hport one heven both hodd =>
    simp only [List.length_cons, List.length_nil]
    omega
  | case3 p port hport one heven hodd ih =>
    simp only [List.length_cons]
    omega
  | case4 => exact Nat.zero_le _

end PortPool

end RtspServer
