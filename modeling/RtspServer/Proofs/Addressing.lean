/-
RtspServer/Proofs/Addressing.lean

How requests find sessions.  A request names the session whose id is the text of
its Session header before the first semicolon, trimmed (`Request.names`).  Ids
are written so that they come back this way, with the timeout behind them or
without it (`Request.sessionId?_of_token`).

An id is made of a word that is drawn for one connection.  No other entry gets
it, then or later (`Hub.DrawnFor`), and numbers of connections are not used
again.  So an entry that is gone is gone for good.
-/
import RtspServer.Proofs.Admission
import RtspServer.Proofs.Landing
import RtspServer.Proofs.Negotiation

namespace RtspServer

/-! ### The session that a request names -/

/-- What stands before the first separator is the first piece. -/
theorem Text.headD_splitOn (c : Char) (t default : Text) :
    (Text.splitOn c t).headD default = t.takeWhile (· != c) := by
  unfold Text.splitOn
  induction t generalizing default with
  | nil => rfl
  | cons d t ih =>
    rcases hd : d == c with _ | _
    · obtain ⟨piece, rest, hpieces⟩ := List.exists_cons_of_ne_nil (splitBy_ne_nil (· == c) t)
      have hpiece : piece = t.takeWhile (· != c) := by
        rw [← ih default, hpieces]
        rfl
      have hne : (d != c) = true := by simp [bne, hd]
      rw [splitBy_cons_of_neg (p := (· == c)) hd hpieces, List.takeWhile_cons_of_pos (p := (· != c)) hne,
        hpiece]
      rfl
    · have hne : ¬(d != c) = true := by simp [bne, hd]
      rw [splitBy_cons_of_pos (p := (· == c)) hd, List.takeWhile_cons_of_neg (p := (· != c)) hne]
      rfl

namespace Request

/-- Does a request name a session: is its id the text before the first semicolon of the Session
header, trimmed? -/
def names (r : Request) (s : Session) : Bool :=
  match r.header? "Session" with
  | some value => s.id == some (Text.trim (value.takeWhile (· != ';')))
  | none => false

/-- All sessions that a request names have the same id. -/
theorem id_eq_of_names {r : Request} {s t : Session} (hs : r.names s = true)
    (ht : r.names t = true) : t.id = s.id := by
  unfold names at hs ht
  split at hs
  · next value hvalue =>
    rw [hvalue] at ht
    exact (eq_of_beq ht).trans (eq_of_beq hs).symm
  · cases hs

theorem sessionId?_eq (r : Request) : r.sessionId? =
    ((r.header? "Session").map fun value => Text.trim (value.takeWhile (· != ';'))).filter
      (!·.isEmpty) := by
  unfold sessionId?
  simp only [Text.headD_splitOn]

/-- No session has a blank id, so it is named by what the header says. -/
theorem names_eq {r : Request} {s : Session} (hs : s.id ≠ some []) :
    r.names s = match r.sessionId? with
      | some id => s.answersTo id
      | none => false := by
  rw [names, sessionId?_eq]
  rcases r.header? "Session" with - | value
  · rfl
  · show (s.id == some (Text.trim (value.takeWhile (· != ';')))) = _
    rw [Option.map_some]
    rcases Text.trim (value.takeWhile (· != ';')) with - | ⟨c, id⟩
    · exact beq_false_of_ne hs
    · rfl

end Request

/-! ### Names -/

namespace Entropy

theorem token_sessionName (w : UInt64) : Text.Token (sessionName w) := Text.token_hexUpper _ _

theorem sessionName_ne_nil (w : UInt64) : sessionName w ≠ [] := by
  rw [sessionName, Text.hexUpper_succ]
  exact List.append_ne_nil_of_right_ne_nil _ (List.cons_ne_nil _ _)

end Entropy

/-- A token comes back as it was, alone or with something behind a semicolon. -/
theorem Request.sessionId?_of_token {r : Request} {id value : Text} (hid : id.Token) (hne : id ≠ [])
    (hvalue : r.header? "Session" = some value)
    (h : value = id ∨ ∃ rest, value = id ++ ';' :: rest) : r.sessionId? = some id := by
  have hfree : ∀ c ∈ id, (c != ';') = true := fun c hc => bne_iff_ne.mpr (hid c hc).2
  have hfirst : value.takeWhile (· != ';') = id := by
    rcases h with rfl | ⟨rest, rfl⟩
    · exact List.takeWhile_eq_self_iff.mpr hfree
    · rw [List.takeWhile_append_of_pos hfree, List.takeWhile_cons_of_neg (by decide),
        List.append_nil]
  rw [sessionId?_eq, hvalue, Option.map_some, hfirst, hid.trim, Option.filter_some,
    List.isEmpty_eq_false_iff.mpr hne]
  rfl

namespace Hub

/-! ### Orderly hubs -/

/-- Entries are told apart by their connections, they are coherent, and their ids are made of words
that have been drawn since `start`. -/
structure Orderly (start : Entropy) (h : Hub) : Prop where
  numbered : h.Numbered
  coherent : h.Coherent
  named : Named start h

theorem Orderly.changes {start : Entropy} {h h' : Hub} (hh : h.Orderly start)
    (hc : Changes Session.Revised h h') : h'.Orderly start where
  numbered := hh.numbered.changes hc
  coherent := changes_induction (fun _ _ hr => hr) (fun hn hp hc => hp.change hn hc) hh.numbered
    hh.coherent hc
  named := changes_induction (fun _ _ hr => hr) (fun hn hp hc => hp.change hn hc) hh.numbered
    hh.named hc

theorem Orderly.touch {start : Entropy} {h : Hub} (hh : h.Orderly start) (peer : SocketAddress)
    (now : Nat) : (h.touch peer now).Orderly start :=
  hh.changes (changes_perform hh.numbered (.touch peer now))

theorem Orderly.run {start : Entropy} {h : Hub} (hh : h.Orderly start)
    (operations : List Operation) : (h.run operations).Orderly start :=
  hh.changes (changes_run hh.numbered operations)

theorem orderly_opened (settings : Settings) (authenticator : Option Authenticator)
    (packetizer : Jpeg.Packetizer) (entropy : Entropy) (ports : PortPool)
    (linkFault : Option Text) :
    (opened settings authenticator packetizer entropy ports linkFault).Orderly entropy :=
  ⟨numbered_opened .., coherent_opened settings authenticator packetizer entropy ports linkFault,
    named_opened ..⟩

section Orderly

variable {start : Entropy} {h : Hub} (hh : h.Orderly start)

include hh

/-- No entry has a blank id. -/
theorem Orderly.id_ne_nil {s : Session} (hs : s ∈ h.sessions) : s.id ≠ some [] := by
  intro hid
  obtain ⟨k, -, hname⟩ := hh.named.made s hs [] hid
  exact Entropy.sessionName_ne_nil _ hname.symm

/-- The session with an id is the only one that has it. -/
theorem Orderly.session?_of_mem (hd : DistinctDraws start h) {s : Session} (hs : s ∈ h.sessions)
    {id : Text} (hid : s.id = some id) : h.session? id = some s := by
  rcases hfound : h.session? id with - | t
  · exact absurd (List.find?_eq_none.mp hfound s hs) (by simp [Session.answersTo, hid])
  · obtain ⟨ht, htid⟩ := mem_of_session? hfound
    rw [hh.numbered.eq_of_conn ht hs (hh.named.apart hd t ht s hs id htid hid)]

end Orderly

theorem session?_eq_none_iff {h : Hub} {id : Text} :
    h.session? id = none ↔ ∀ s ∈ h.sessions, s.id ≠ some id := by
  unfold session?
  simp [Session.answersTo]

/-! ### Ids are given once -/

theorem DistinctDraws.mono {start : Entropy} {h h' : Hub}
    (hused : h.entropy.used64 ≤ h'.entropy.used64) (hd : DistinctDraws start h') :
    DistinctDraws start h :=
  fun i j hi hj => hd i j ⟨hi.1, Nat.lt_of_lt_of_le hi.2 hused⟩ ⟨hj.1, Nat.lt_of_lt_of_le hj.2 hused⟩

/-- Where the ids of entries come from: they were there for the same connection, or they are made of
the next word. -/
theorem Change.ids {h h' : Hub} (hn : h.Numbered) (hc : Change Session.Revised h h') :
    h.entropy.used64 ≤ h'.entropy.used64 ∧ ∀ t ∈ h'.sessions, ∀ id, t.id = some id →
      (∃ s ∈ h.sessions, s.conn = t.conn ∧ s.id = some id) ∨
        (h.entropy.used64 < h'.entropy.used64 ∧ id = h.entropy.drawSession.1) := by
  cases hc with
  | register peer outlet now =>
    refine ⟨Nat.le_refl _, fun t ht id hid => ?_⟩
    rcases List.mem_append.mp ht with ht | ht
    · exact Or.inl ⟨t, ht, rfl, hid⟩
    · rw [List.mem_singleton.mp ht] at hid
      cases hid
  | evict p keepOutlet =>
    exact ⟨Nat.le_refl _, fun t ht id hid => Or.inl ⟨t, (List.mem_filter.mp ht).1, rfl, hid⟩⟩
  | setUp conn transport =>
    rcases h.setUp_cases conn transport with ⟨_, _, e⟩ | ⟨_, _, _, _, e⟩ | ⟨m, s, _, hs, e⟩ <;>
      rw [e]
    · exact ⟨Nat.le_refl _, fun t ht id hid => Or.inl ⟨t, ht, rfl, hid⟩⟩
    · exact ⟨Nat.le_refl _, fun t ht id hid => Or.inl ⟨t, ht, rfl, hid⟩⟩
    · rcases hsid : s.id with - | old
      · -- the first SETUP draws
        refine ⟨by simp [idFor, hsid], fun t ht id hid => ?_⟩
        rcases (mem_bound hn hs).mp ht with rfl | ⟨ht, -⟩
        · obtain rfl : (idFor h.entropy s).1 = id := Option.some.inj hid
          exact Or.inr ⟨by simp [idFor, hsid], by simp [idFor, hsid]⟩
        · exact Or.inl ⟨t, ht, rfl, hid⟩
      · refine ⟨by simp [idFor, hsid], fun t ht id hid => ?_⟩
        rcases (mem_bound hn hs).mp ht with rfl | ⟨ht, -⟩
        · obtain rfl : (idFor h.entropy s).1 = id := Option.some.inj hid
          exact Or.inl ⟨s, (mem_of_entry_eq hs).1, rfl, by simp [idFor, hsid]⟩
        · exact Or.inl ⟨t, ht, rfl, hid⟩
  | revise hf =>
    refine ⟨Nat.le_refl _, fun t ht id hid => ?_⟩
    obtain ⟨s, hs, rfl⟩ := List.mem_map.mp ht
    exact Or.inl ⟨s, hs, (hf s hs).conn.symm, (hf s hs).id.symm.trans hid⟩
  | media hm => exact ⟨Nat.le_refl _, fun t ht id hid => Or.inl ⟨t, ht, rfl, hid⟩⟩

/-- The word at a place has been drawn for the entry of one connection, and no other entry has the
name made of it. -/
structure DrawnFor (start : Entropy) (k : Nat) (conn : ConnId) (h : Hub) : Prop where
  drawn : Drawn start h k
  alone : DistinctDraws start h → ∀ t ∈ h.sessions,
    t.id = some (Entropy.sessionName (start.words64 k)) → t.conn = conn

theorem DrawnFor.change {start : Entropy} {k : Nat} {conn : ConnId} {h h' : Hub}
    (hn : h.Numbered) (hnamed : Named start h) (hk : DrawnFor start k conn h)
    (hc : Change Session.Revised h h') : DrawnFor start k conn h' := by
  obtain ⟨hused, hids⟩ := hc.ids hn
  refine ⟨⟨hk.drawn.1, Nat.lt_of_lt_of_le hk.drawn.2 hused⟩, fun hd t ht hid => ?_⟩
  rcases hids t ht _ hid with ⟨s, hs, hconn, hsid⟩ | ⟨hmore, hname⟩
  · exact hconn.symm.trans (hk.alone (hd.mono hused) s hs hsid)
  · -- the next word is another one
    rw [Entropy.fst_drawSession, hnamed.words] at hname
    have hword := Entropy.sessionName_injective hname
    have hplace := hd k h.entropy.used64 ⟨hk.drawn.1, Nat.lt_of_lt_of_le hk.drawn.2 hused⟩
      ⟨hnamed.used, hmore⟩ hword
    exact absurd hk.drawn.2 (hplace ▸ Nat.lt_irrefl _)

section Orderly

variable {start : Entropy} {h h' : Hub} (hh : h.Orderly start)

include hh

/-- The id of an entry is made of a word that was drawn for it. -/
theorem Orderly.drawnFor {s : Session} (hs : s ∈ h.sessions) {id : Text} (hid : s.id = some id) :
    ∃ k, id = Entropy.sessionName (start.words64 k) ∧ DrawnFor start k s.conn h := by
  obtain ⟨k, hk, hname⟩ := hh.named.made s hs id hid
  exact ⟨k, hname, hk, fun hd t ht htid =>
    hh.named.apart hd t ht s hs id (htid.trans (congrArg some hname.symm)) hid⟩

theorem Orderly.drawnFor_changes {k : Nat} {conn : ConnId} (hk : DrawnFor start k conn h)
    (hc : Changes Session.Revised h h') : DrawnFor start k conn h' := by
  induction hc with
  | refl => exact hk
  | tail hpre hstep ih =>
    have hmid := hh.changes hpre
    exact ih.change hmid.numbered hmid.named hstep

/-- **An id designates one entry while it lives, and nothing after that.** -/
theorem Orderly.session?_eq_entry? {s : Session} (hs : s ∈ h.sessions) {id : Text}
    (hid : s.id = some id) (hc : Changes Session.Revised h h') (hd : DistinctDraws start h') :
    h'.session? id = h'.entry? s.conn := by
  have hh' := hh.changes hc
  have hcontinues : Continues s h' := changes_induction (fun _ _ hr => hr)
    (fun hn hp hc => hp.change hn hc) hh.numbered (.of_mem hh.numbered hs) hc
  rcases ht : h'.entry? s.conn with - | t
  · obtain ⟨k, hname, hk⟩ := hh.drawnFor hs hid
    refine session?_eq_none_iff.mpr fun t htmem htid => ?_
    exact entry?_eq_none_iff.mp ht t htmem
      ((hh.drawnFor_changes hk hc).alone hd t htmem (htid.trans (congrArg some hname)))
  · obtain ⟨hmem, hconn⟩ := mem_of_entry_eq ht
    exact hh'.session?_of_mem hd hmem (hcontinues.id t hmem hconn id hid)

end Orderly

/-! ### Verbs -/

section Verbs

variable {start : Entropy} {h : Hub} (hh : h.Orderly start) {r : Request}

include hh

theorem Orderly.names_eq {s : Session} (hs : s ∈ h.sessions) :
    r.names s = match r.sessionId? with
      | some id => s.answersTo id
      | none => false :=
  Request.names_eq (hh.id_ne_nil hs)

/-- An entry that is named is the session with the id of the request. -/
theorem Orderly.session?_of_names (hd : DistinctDraws start h) {s : Session} (hs : s ∈ h.sessions)
    (hr : r.names s = true) : ∃ id, r.sessionId? = some id ∧ h.session? id = some s := by
  rw [hh.names_eq hs] at hr
  rcases hid : r.sessionId? with - | id
  · rw [hid] at hr
    cases hr
  · rw [hid] at hr
    exact ⟨id, rfl, hh.session?_of_mem hd hs (by simpa [Session.answersTo] using hr)⟩

/-- If no entry is named, there is no session with the id of the request. -/
theorem Orderly.session?_of_not_names (hr : ∀ s ∈ h.sessions, r.names s = false) {id : Text}
    (hid : r.sessionId? = some id) : h.session? id = none := by
  refine session?_eq_none_iff.mpr fun s hs hsid => ?_
  have hnot := hr s hs
  rw [hh.names_eq hs, hid] at hnot
  simp [Session.answersTo, hsid] at hnot

theorem Orderly.answerPlay_of_names (hd : DistinctDraws start h) {s : Session}
    (hs : s ∈ h.sessions) (hr : r.names s = true) :
    (h.answerPlay r).1.status = 200 ∧ (h.answerPlay r).2 = h.update s.conn fun t =>
      { t with phase := .playing, stream := { t.stream with reportDue := true } } := by
  obtain ⟨id, hid, hsession⟩ := hh.session?_of_names hd hs hr
  obtain ⟨-, hsid⟩ := mem_of_session? hsession
  -- an entry with an id has a transport
  have hbound : s.stream.transport.isNone = false := by
    rw [Option.isNone_eq_false_iff, Option.isSome_iff_ne_none]
    intro hnone
    exact absurd (hsid.symm.trans ((hh.coherent s hs).bound_iff.mpr hnone)) nofun
  have hplay : h.play id = (.ok s.stream.sequence, h.update s.conn fun t =>
      { t with phase := .playing, stream := { t.stream with reportDue := true } }) := by
    simp [play, hsession, hbound]
  rw [answerPlay, hid]
  simp only [hplay]
  exact ⟨r.status_respond, trivial⟩

theorem Orderly.answerPlay_of_not_names (hr : ∀ s ∈ h.sessions, r.names s = false) :
    h.answerPlay r = (r.respond.withStatus 454, h) := by
  unfold answerPlay
  split
  · rfl
  · next id hid =>
    have hplay : h.play id = (.error (.sessionNotFound id), h) := by
      simp [play, hh.session?_of_not_names hr hid]
    simp only [hplay]

theorem Orderly.answerPause_of_names (hd : DistinctDraws start h) {s : Session}
    (hs : s ∈ h.sessions) (hr : r.names s = true) :
    h.answerPause r = (r.respond, h.update s.conn fun t => { t with phase := .ready }) := by
  obtain ⟨id, hid, hsession⟩ := hh.session?_of_names hd hs hr
  simp [answerPause, hid, pause, hsession]

theorem Orderly.answerPause_of_not_names (hr : ∀ s ∈ h.sessions, r.names s = false) :
    h.answerPause r = (r.respond.withStatus 454, h) := by
  unfold answerPause
  split
  · rfl
  · next id hid => simp [pause, hh.session?_of_not_names hr hid]

/-- TEARDOWN takes out the entries that are named. -/
theorem Orderly.answerTeardown (c : Client) :
    (h.answerTeardown c r).1 = r.respond ∧
      (h.answerTeardown c r).2.1 = { c with
        closing := c.closing || h.sessions.any fun s => s.conn == c.conn && r.names s } ∧
      (h.answerTeardown c r).2.2.sessions = h.sessions.filter (!r.names ·) := by
  unfold Hub.answerTeardown
  split
  · next hid =>
    have hnone : ∀ s ∈ h.sessions, r.names s = false := by
      intro s hs
      rw [hh.names_eq hs, hid]
    have hany : h.sessions.any (fun s => s.conn == c.conn && r.names s) = false :=
      List.any_eq_false.mpr fun s hs => by simp [hnone s hs]
    refine ⟨rfl, ?_, ?_⟩
    · rw [hany, Bool.or_false]
    · exact (List.filter_eq_self.mpr fun s hs => by simp [hnone s hs]).symm
  · next id hid =>
    have hsame : ∀ s ∈ h.sessions, r.names s = s.answersTo id := by
      intro s hs
      rw [hh.names_eq hs, hid]
    have hgone : (h.teardown c.conn id).1.contains c.conn =
        h.sessions.any fun s => s.conn == c.conn && r.names s := by
      rw [Bool.eq_iff_iff, List.contains_iff_mem, List.any_eq_true]
      simp only [teardown, evict, List.map_map, List.mem_map, List.mem_filter, Function.comp,
        Bool.and_eq_true, beq_iff_eq]
      constructor
      · rintro ⟨s, ⟨hs, hid⟩, hconn⟩
        exact ⟨s, hs, hconn, (hsame s hs).trans hid⟩
      · rintro ⟨s, hs, hconn, hnames⟩
        exact ⟨s, ⟨hs, (hsame s hs).symm.trans hnames⟩, hconn⟩
    refine ⟨rfl, ?_, ?_⟩
    · rw [← hgone]
    · show h.sessions.filter _ = _
      exact List.filter_congr fun s hs => by rw [hsame s hs]

end Verbs

/-! ### Requests that may pass -/

theorem names_seen (r : Request) (peer : SocketAddress) (now : Nat) (s : Session) :
    r.names (seen peer now s) = r.names s := by
  rw [Request.names, (stream_seen peer now s).2, Request.names]

/-- The other verbs but SETUP do nothing, and only TEARDOWN closes. -/
theorem answer_of_idle_verb {h : Hub} {r : Request} (hpass : h.isAuthorized r = true) (c : Client)
    (now : Nat) (hmethod : r.method ∉ [.setup, .play, .pause, .teardown]) :
    (h.answer c r now).2.2 = h.touch c.peer now := by
  rw [answer_of_passed hpass, dispatch]
  split <;> simp_all

theorem client_answer_of_not_teardown {h : Hub} {r : Request} (hpass : h.isAuthorized r = true)
    (c : Client) (now : Nat) (hmethod : r.method ≠ .teardown) :
    (h.answer c r now).2.1 = c := by
  rw [answer_of_passed hpass, dispatch]
  split <;> simp_all

section Passing

variable {start : Entropy} {h : Hub} (hh : h.Orderly start) {r : Request}
  (hpass : h.isAuthorized r = true) (c : Client) (now : Nat)

include hh hpass

theorem Orderly.answer_play_of_names (hmethod : r.method = .play) (hd : DistinctDraws start h)
    {s : Session} (hs : s ∈ h.sessions) (hr : r.names s = true) :
    (h.answer c r now).1.status = 200 ∧
      (h.answer c r now).2.2 = (h.touch c.peer now).update s.conn fun t =>
        { t with phase := .playing, stream := { t.stream with reportDue := true } } := by
  have hseen : seen c.peer now s ∈ (h.touch c.peer now).sessions := List.mem_map_of_mem hs
  have hplay := (hh.touch c.peer now).answerPlay_of_names hd hseen
    ((names_seen r c.peer now s).trans hr)
  rw [(untouched_seen c.peer now s).conn] at hplay
  simp only [answer_of_passed hpass, dispatch, hmethod]
  exact hplay

theorem Orderly.answer_pause_of_names (hmethod : r.method = .pause) (hd : DistinctDraws start h)
    {s : Session} (hs : s ∈ h.sessions) (hr : r.names s = true) :
    (h.answer c r now).1.status = 200 ∧
      (h.answer c r now).2.2 =
        (h.touch c.peer now).update s.conn fun t => { t with phase := .ready } := by
  have hseen : seen c.peer now s ∈ (h.touch c.peer now).sessions := List.mem_map_of_mem hs
  have hpause := (hh.touch c.peer now).answerPause_of_names hd hseen
    ((names_seen r c.peer now s).trans hr)
  rw [(untouched_seen c.peer now s).conn] at hpause
  simp only [answer_of_passed hpass, dispatch, hmethod, hpause]
  exact ⟨r.status_respond, trivial⟩

/-- PLAY and PAUSE change nothing if no entry is named. -/
theorem Orderly.answer_of_not_names (hmethod : r.method = .play ∨ r.method = .pause)
    (hr : ∀ s ∈ h.sessions, r.names s = false) :
    h.answer c r now = (r.respond.withStatus 454, c, h.touch c.peer now) := by
  have hr' : ∀ s ∈ (h.touch c.peer now).sessions, r.names s = false := by
    intro t ht
    obtain ⟨s, hs, rfl⟩ := List.mem_map.mp ht
    exact (names_seen r c.peer now s).trans (hr s hs)
  rcases hmethod with hmethod | hmethod
  · simp only [answer_of_passed hpass, dispatch, hmethod,
      (hh.touch c.peer now).answerPlay_of_not_names hr']
  · simp only [answer_of_passed hpass, dispatch, hmethod,
      (hh.touch c.peer now).answerPause_of_not_names hr']

theorem Orderly.answer_teardown (hmethod : r.method = .teardown) :
    (h.answer c r now).1.status = 200 ∧
      (h.answer c r now).2.2.sessions = (h.touch c.peer now).sessions.filter (!r.names ·) ∧
      (h.answer c r now).2.1 = { c with
        closing := c.closing || h.sessions.any fun s => s.conn == c.conn && r.names s } := by
  have hany : (h.touch c.peer now).sessions.any (fun s => s.conn == c.conn && r.names s) =
      h.sessions.any fun s => s.conn == c.conn && r.names s := by
    show (h.sessions.map (seen c.peer now)).any _ = _
    rw [List.any_map]
    refine congrArg (List.any h.sessions) (funext fun s => ?_)
    show ((seen c.peer now s).conn == c.conn && r.names (seen c.peer now s)) = _
    rw [(untouched_seen c.peer now s).conn, names_seen]
  obtain ⟨hresponse, hclient, hsessions⟩ := (hh.touch c.peer now).answerTeardown (r := r) c
  rw [hany] at hclient
  simp only [answer_of_passed hpass, dispatch, hmethod]
  exact ⟨by rw [hresponse, Request.status_respond], hsessions, hclient⟩

/-- SETUP touches no other entry, and the Session header of its answer designates the entry of the
connection while that lives. -/
theorem Orderly.answer_setup (howned : h.Owned) (hmethod : r.method = .setup) :
    (∀ conn, conn ≠ c.conn →
      Hub.entry? (h.answer c r now).2.2 conn = Hub.entry? (h.touch c.peer now) conn) ∧
    ((h.answer c r now).1.status = 200 → ∃ s id value,
      Hub.entry? (h.answer c r now).2.2 c.conn = some s ∧ s.id = some id ∧
      (h.answer c r now).1.headers.get? "Session".toList = some value ∧
      (∀ q : Request, q.header? "Session" = some value ∨ q.header? "Session" = some id →
        q.sessionId? = some id) ∧
      ∀ next, DistinctDraws start ((h.answer c r now).2.2.run next) →
        Hub.session? ((h.answer c r now).2.2.run next) id =
          Hub.entry? ((h.answer c r now).2.2.run next) c.conn) := by
  have hafter : Hub.Orderly start (h.answer c r now).2.2 :=
    hh.changes (changes_answer hh.numbered c r now |>.mono fun _ _ hu => hu.toRevised)
  rcases answered_cases howned hmethod hpass now (c := c) with
    ⟨-, e⟩ | ⟨-, _, _, e, -⟩ | ⟨-, s, carrier, reply, m, e, hs, -⟩
  · exact ⟨fun conn _ => by rw [e], fun h200 => by simp [e] at h200⟩
  · exact ⟨fun conn _ => by rw [e]; rfl, fun h200 => by simp [e] at h200⟩
  · have hentry := (h.touch c.peer now).entry?_bind c.conn (idFor h.entropy s).1
      h.media.transports.length
    refine ⟨fun conn hne => ?_, fun _ => ?_⟩
    · rw [e]
      exact (hentry conn).trans (if_neg hne)
    · have hfound : Hub.entry? (h.answer c r now).2.2 c.conn = some (bindTransport
          (idFor h.entropy s).1 h.media.transports.length (seen c.peer now s)) := by
        rw [e]
        refine (hentry c.conn).trans ?_
        rw [if_pos rfl, entry?_touch, hs]
        rfl
      obtain ⟨hmem, hconn⟩ := mem_of_entry_eq hfound
      obtain ⟨k, -, hname⟩ := hafter.named.made _ hmem _ rfl
      have htoken : Text.Token (idFor h.entropy s).1 := hname ▸ Entropy.token_sessionName _
      have hne : (idFor h.entropy s).1 ≠ [] := hname ▸ Entropy.sessionName_ne_nil _
      refine ⟨_, (idFor h.entropy s).1, h.sessionHeader (idFor h.entropy s).1, hfound, rfl, ?_, ?_,
        fun next hd => ?_⟩
      · rw [e]
        exact Headers.get?_insert_self _ _ _
      · rintro q (hq | hq)
        · refine Request.sessionId?_of_token htoken hne hq (Or.inr ⟨"timeout=".toList ++
            Text.decimal (h.settings.timeout / 1000), ?_⟩)
          rw [sessionHeader, List.append_assoc]
          rfl
        · exact Request.sessionId?_of_token htoken hne hq (Or.inl rfl)
      · rw [hafter.session?_eq_entry? hmem rfl (changes_run hafter.numbered next) hd, hconn]

end Passing

/-! ### After any run -/

section Opened

variable (settings : Settings) (authenticator : Option Authenticator)
  (packetizer : Jpeg.Packetizer) (entropy : Entropy) (ports : PortPool) (linkFault : Option Text)

/-- **Requests find the sessions they name.**  Let a request pass, from whatever connection, after
any run of a hub that was opened without connections, and let the words that ids are made of be
different.  Whatever it asks for, its peer is noted as seen.  Besides:

* PLAY and PAUSE are answered with 200 if an entry is named, and then the phase of that entry is all
  that changes (and PLAY makes a report due); if none is named they are answered with 454;
* TEARDOWN is answered with 200 and takes out just the entries that are named, and the conversation
  is to end if the entry of its own connection was one of them;
* SETUP leaves the entries of other connections alone, and the Session header of a 200, sent back as
  it came or as the id alone, finds the entry of the connection then and after any further run;
* all other methods change nothing, and only TEARDOWN can end a conversation.

An entry that is gone, for whatever reason, stays gone: whatever happens next, frames of its
connection go nowhere, SETUP on the connection is answered with 461, and the id finds nothing, so
PLAY and PAUSE that name it are answered with 454. -/
theorem sessions_addressed (before : List Operation) :
    let h := (opened settings authenticator packetizer entropy ports linkFault).run before
    (∀ (c : Client) (r : Request) (now : Nat), h.isAuthorized r = true → DistinctDraws entropy h →
      let response := (h.answer c r now).1
      let client := (h.answer c r now).2.1
      let after := (h.answer c r now).2.2
      let touched := h.touch c.peer now
      (r.method = .play →
        (∀ s ∈ h.sessions, r.names s = true → response.status = 200 ∧
          after = touched.update s.conn fun t =>
            { t with phase := .playing, stream := { t.stream with reportDue := true } }) ∧
        ((∀ s ∈ h.sessions, r.names s = false) → response.status = 454 ∧ after = touched)) ∧
      (r.method = .pause →
        (∀ s ∈ h.sessions, r.names s = true → response.status = 200 ∧
          after = touched.update s.conn fun t => { t with phase := .ready }) ∧
        ((∀ s ∈ h.sessions, r.names s = false) → response.status = 454 ∧ after = touched)) ∧
      (r.method = .teardown → response.status = 200 ∧
        after.sessions = touched.sessions.filter (!r.names ·) ∧
        client = { c with
          closing := c.closing || h.sessions.any fun s => s.conn == c.conn && r.names s }) ∧
      (r.method = .setup →
        (∀ conn, conn ≠ c.conn → after.entry? conn = touched.entry? conn) ∧
        (response.status = 200 → ∃ s id value, after.entry? c.conn = some s ∧ s.id = some id ∧
          response.headers.get? "Session".toList = some value ∧
          (∀ q : Request, q.header? "Session" = some value ∨ q.header? "Session" = some id →
            q.sessionId? = some id) ∧
          ∀ next, DistinctDraws entropy (after.run next) →
            (after.run next).session? id = Hub.entry? (after.run next) c.conn)) ∧
      (r.method ∉ [.setup, .play, .pause, .teardown] → after = touched) ∧
      (r.method ≠ .teardown → client = c)) ∧
    ∀ s ∈ h.sessions, ∀ next more : List Operation, Hub.entry? (h.run next) s.conn = none →
      let later := (h.run next).run more
      later.entry? s.conn = none ∧
      (∀ frame, later.deliver s.conn frame = (false, later)) ∧
      (∀ (c : Client) (r : Request) (now : Nat), c.conn = s.conn → r.method = .setup →
        later.isAuthorized r = true → (later.answer c r now).1.status = 461) ∧
      (DistinctDraws entropy later → ∀ id, s.id = some id →
        later.session? id = none ∧
        ∀ (c : Client) (r : Request) (now : Nat), r.names s = true →
          r.method = .play ∨ r.method = .pause → later.isAuthorized r = true →
          (later.answer c r now).1.status = 454) := by
  intro h
  have hn₀ := numbered_opened settings authenticator packetizer entropy ports linkFault
  have hh : h.Orderly entropy :=
    (orderly_opened settings authenticator packetizer entropy ports linkFault).run before
  have howned : h.Owned :=
    (owned_opened settings authenticator packetizer entropy ports linkFault).run hn₀ before
  refine ⟨fun c r now hpass hd => ?_, fun s hs next more hgone => ?_⟩
  · intro response client after touched
    refine ⟨fun hmethod => ⟨fun s hs hr => hh.answer_play_of_names hpass c now hmethod hd hs hr, ?_⟩,
      fun hmethod => ⟨fun s hs hr => hh.answer_pause_of_names hpass c now hmethod hd hs hr, ?_⟩,
      fun hmethod => hh.answer_teardown hpass c now hmethod,
      fun hmethod => hh.answer_setup hpass c now howned hmethod,
      answer_of_idle_verb hpass c now, client_answer_of_not_teardown hpass c now⟩
    · intro hr
      have e := hh.answer_of_not_names hpass c now (Or.inl hmethod) hr
      exact ⟨by simp [response, e], by simp [after, e, touched]⟩
    · intro hr
      have e := hh.answer_of_not_names hpass c now (Or.inr hmethod) hr
      exact ⟨by simp [response, e], by simp [after, e, touched]⟩
  · intro later
    have hnext := hh.run next
    have hlater : later.Orderly entropy := hnext.run more
    have howned' : later.Owned := (howned.run hh.numbered next).run hnext.numbered more
    -- the number of the connection is not used again
    have hbelow : s.conn < (h.run next).nextConn :=
      Nat.lt_of_lt_of_le (hh.numbered.below s hs) (changes_run hh.numbered next).nextConn_le
    have hnobody : ∀ t ∈ later.sessions, t.conn ≠ s.conn :=
      (changes_run hnext.numbered more).gone hnext.numbered hbelow (entry?_eq_none_iff.mp hgone)
    have hnone : later.entry? s.conn = none := entry?_eq_none_iff.mpr hnobody
    refine ⟨hnone, deliver_of_unbound fun t ht hconn => absurd hconn (hnobody t ht),
      fun c r now hconn hmethod hpass => ?_, fun hd id hid => ?_⟩
    · rcases answered_cases howned' hmethod hpass now (c := c) with
        ⟨-, e⟩ | ⟨-, _, _, e, -⟩ | ⟨-, t, _, _, _, -, ht, -⟩
      · simp [e]
      · simp [e]
      · rw [hconn] at ht
        exact absurd (hnone.symm.trans ht) nofun
    · have hchanges : Changes Session.Revised h later :=
        (changes_run hh.numbered next).trans (changes_run hnext.numbered more)
      have hsession : later.session? id = none :=
        (hh.session?_eq_entry? hs hid hchanges hd).trans hnone
      refine ⟨hsession, fun c r now hr hmethod hpass => ?_⟩
      have hunnamed : ∀ t ∈ later.sessions, r.names t = false := by
        intro t ht
        refine Bool.eq_false_iff.mpr fun htr => ?_
        exact session?_eq_none_iff.mp hsession t ht ((Request.id_eq_of_names hr htr).trans hid)
      rw [hlater.answer_of_not_names hpass c now hmethod hunnamed]
      rfl

end Opened

/-- The client that sets up the first session. -/
def viewer : Client := { conn := 1, peer := ⟨.v4 127 0 0 1, 4000, 0⟩, outlet := 0 }

/-- A PLAY that names the first session, with its timeout. -/
def firstPlayed : Request where
  method := .play
  target := "rtsp://cam/live".toList
  headers := ⟨[("CSeq".toList, ['2']), ("Session".toList, "0000000000000000 ;timeout=60".toList)]⟩

theorem first_session_played_then_gone :
    let entropy : Entropy := ⟨UInt16.ofNat, UInt32.ofNat, UInt64.ofNat, 0, 0, 0⟩
    let h := (opened {} none { mtu_pos := Nat.succ_pos 1399 } entropy {} none).run
      [.connect viewer.peer {} 0, .request viewer threeOffers 5]
    let other : Client := { conn := 2, peer := ⟨.v4 127 0 0 1, 4001, 0⟩, outlet := 1 }
    (h.answer other firstPlayed 6).1.status = 200 ∧
      ((h.run [.disconnect 1]).answer other firstPlayed 6).1.status = 454 := by
  intro entropy h other
  have hdraws : ∀ g : Hub, g.entropy.used64 = 1 → DistinctDraws entropy g := by
    intro g hone i j hi hj _
    have := hi.2
    have := hj.2
    omega
  have hnamed : ∃ s ∈ h.sessions, s.conn = 1 ∧ s.id ≠ none ∧ firstPlayed.names s = true := by decide
  obtain ⟨s, hs, hconn, hid, hnames⟩ := hnamed
  obtain ⟨id, hid⟩ := Option.ne_none_iff_exists'.mp hid
  obtain ⟨hlive, hgone⟩ := sessions_addressed {} none { mtu_pos := Nat.succ_pos 1399 } entropy {} none
    [.connect viewer.peer {} 0, .request viewer threeOffers 5]
  have hcloses : Hub.entry? (h.run [.disconnect 1]) s.conn = none := by
    rw [hconn]
    decide
  have hpass : (h.run [.disconnect 1]).isAuthorized firstPlayed = true := by decide
  obtain ⟨hplay, -⟩ := hlive other firstPlayed 6 rfl (hdraws h (by decide))
  obtain ⟨hanswered, -⟩ := hplay rfl
  obtain ⟨hplayed, -⟩ := hanswered s hs hnames
  obtain ⟨-, -, -, hfinal⟩ := hgone s hs [.disconnect 1] [] hcloses
  obtain ⟨-, hunnamed⟩ := hfinal (hdraws _ (by decide)) id hid
  have hrefused := hunnamed other firstPlayed 6 hnames (Or.inl rfl) hpass
  -- nothing is evaluated any more
  have e : h = (opened {} none { mtu_pos := Nat.succ_pos 1399 } entropy {} none).run
    [.connect viewer.peer {} 0, .request viewer threeOffers 5] := rfl
  clear_value h
  subst e
  exact ⟨hplayed, hrefused⟩

end Hub

end RtspServer
