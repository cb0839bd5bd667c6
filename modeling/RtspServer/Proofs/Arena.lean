/-
RtspServer/Proofs/Arena.lean

What holds of the entries of a hub after any run.

* An entry is never `closed`.  Being in `init`, having no id and having no
  transport come to the same.
* The source of an entry and its id, once it has one, stay while it lives.
* If the words that ids are made of are distinct, ids are distinct.

From the first it follows that whoever plays has an id and a transport, so
PLAY fails only for an id that nobody has, and the status 455 is never given.
-/
import RtspServer.Proofs.Entry
import RtspServer.Proofs.Naming

namespace RtspServer

namespace Hub

/-- Every status that is ever given. -/
def statuses : List Nat := [200, 401, 454, 461, 501]

theorem status_answerSetUp (h : Hub) (c : Client) (r : Request) (offers : List TransportOffer) :
    (h.answerSetUp c r offers).1.status ∈ statuses := by
  induction offers with
  | nil => simp [answerSetUp, statuses]
  | cons offer rest ih =>
    unfold answerSetUp
    split
    · exact ih
    · split <;> simp [statuses]

theorem status_answerPlay {h : Hub} (hh : h.Coherent) (r : Request) :
    (h.answerPlay r).1.status ∈ statuses := by
  unfold answerPlay
  split
  · simp [statuses]
  · next id _ =>
    split
    · simp [statuses]
    · simp [statuses]
    · next fault after hother hp =>
      -- the only fault that could come here is the one dealt with before
      exact (hother id (play_eq_error hh (congrArg Prod.fst hp))).elim

theorem status_answerPause (h : Hub) (r : Request) : (h.answerPause r).1.status ∈ statuses := by
  unfold answerPause
  split
  · simp [statuses]
  · split <;> simp [statuses]

theorem status_answerTeardown (h : Hub) (c : Client) (r : Request) :
    (h.answerTeardown c r).1.status ∈ statuses := by
  unfold answerTeardown
  split <;> simp [statuses]

theorem status_dispatch {h : Hub} (hh : h.Coherent) (c : Client) (r : Request) :
    (h.dispatch c r).1.status ∈ statuses := by
  unfold dispatch
  split
  · simp [statuses]
  · simp [describe, statuses]
  · exact status_answerSetUp ..
  · exact status_answerPlay hh r
  · exact status_answerPause h r
  · exact status_answerTeardown h c r
  all_goals simp [statuses]

theorem coherent_touch {h : Hub} (hh : h.Coherent) (peer : SocketAddress) (now : Nat) :
    (h.touch peer now).Coherent := by
  intro t ht
  obtain ⟨s, hs, rfl⟩ := List.mem_map.mp ht
  exact (hh s hs).revised (untouched_seen peer now s).toRevised

theorem status_answer {h : Hub} (hh : h.Coherent) (c : Client) (r : Request) (now : Nat) :
    (h.answer c r now).1.status ∈ statuses := by
  simp only [answer]
  split
  · exact status_dispatch (coherent_touch hh c.peer now) c r
  · simp [reject, statuses]

/-! ### After any run -/

section Opened

variable (settings : Settings) (authenticator : Option Authenticator)
  (packetizer : Jpeg.Packetizer) (entropy : Entropy) (ports : PortPool) (linkFault : Option Text)

theorem coherent_opened :
    (opened settings authenticator packetizer entropy ports linkFault).Coherent :=
  fun _ hs => absurd hs List.not_mem_nil

theorem named_opened :
    Named entropy (opened settings authenticator packetizer entropy ports linkFault) :=
  ⟨rfl, Nat.le_refl _, fun _ hs => absurd hs List.not_mem_nil,
    fun _ _ hs => absurd hs List.not_mem_nil⟩

/-- **The arena.**  After any run of a hub that was opened without connections:

* every entry is coherent;
* whatever happens next, an entry that still lives has the source it had, and the id if it had
  one;
* if the words drawn for ids are distinct, no two entries have the same id;
* at most the sessions play, and at most the connections are sessions;
* PLAY fails only because nobody has the id;
* no request is answered with the status 455. -/
theorem arena_invariant (operations next : List Operation) :
    let h := (opened settings authenticator packetizer entropy ports linkFault).run operations
    (∀ s ∈ h.sessions, s.phase ≠ .closed ∧ (s.phase = .init ↔ s.id = none) ∧
      (s.id = none ↔ s.stream.transport = none)) ∧
    (∀ s ∈ h.sessions, ∀ t ∈ (h.run next).sessions, t.conn = s.conn →
      t.stream.ssrc = s.stream.ssrc ∧ ∀ id, s.id = some id → t.id = some id) ∧
    (DistinctDraws entropy h →
      h.sessions.Pairwise fun s t => ∀ id, s.id = some id → t.id ≠ some id) ∧
    (h.playingCount ≤ h.sessionCount ∧ h.sessionCount ≤ h.connectionCount) ∧
    (∀ id fault, (h.play id).1 = .error fault → fault = .sessionNotFound id) ∧
    ∀ client request now, (h.answer client request now).1.status ≠ 455 := by
  intro h
  have hn₀ := numbered_opened settings authenticator packetizer entropy ports linkFault
  have hn : h.Numbered := numbered_run hn₀ operations
  have hcoherent : h.Coherent := run_induction (fun hn hp hc => hp.change hn hc) hn₀
    (coherent_opened settings authenticator packetizer entropy ports linkFault) operations
  have hnamed : Named entropy h := run_induction (fun hn hp hc => hp.change hn hc) hn₀
    (named_opened settings authenticator packetizer entropy ports linkFault) operations
  refine ⟨?_, ?_, ?_, ⟨playingCount_le hcoherent, sessionCount_le h⟩, ?_, ?_⟩
  · intro s hs
    exact ⟨(hcoherent s hs).live, (hcoherent s hs).init_iff, (hcoherent s hs).bound_iff⟩
  · intro s hs t ht hconn
    have hstart : Continues s h := Continues.of_mem hn hs
    have hlater : Continues s (h.run next) :=
      run_induction (fun hn hp hc => hp.change hn hc) hn hstart next
    exact ⟨hlater.ssrc t ht hconn, hlater.id t ht hconn⟩
  · intro hdistinct
    have hconns : h.sessions.Pairwise fun s t => s.conn ≠ t.conn := List.pairwise_map.mp hn.nodup
    refine hconns.imp_of_mem fun {s t} hs ht hne id hsid htid => hne ?_
    exact hnamed.apart hdistinct s hs t ht id hsid htid
  · exact fun id fault hp => play_eq_error hcoherent hp
  · intro client request now hstatus
    have hmem := status_answer hcoherent client request now
    rw [hstatus] at hmem
    exact absurd hmem (by decide)

end Opened

end Hub

end RtspServer
