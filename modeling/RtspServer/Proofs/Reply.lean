/-
RtspServer/Proofs/Reply.lean

What an answer looks like, whatever the request was.  Its headers have names from
a short list, and their values have no line feed (`Response.Plain`).  So its head
is a status line and one line for each header, and none of these lines is empty
or broken (`Response.Plain.notMem_headLines`).

Only the answer to DESCRIBE has a body, which is the description of the stream:
ten lines, whatever address was asked for (`Hub.exists_lines_of_describe`).
-/
import RtspServer.Proofs.Arena
import RtspServer.Proofs.OneLine

namespace RtspServer

namespace Response

/-! ### Heads of responses -/

/-- The names of all headers that the server ever writes, but for the one that counts the body. -/
def headerNames : List Text :=
  ["Server", "CSeq", "Session", "Public", "Content-Type", "Content-Base", "Transport", "Range",
    "RTP-Info", "WWW-Authenticate"].map String.toList

/-- The headers of a response have known names, and values without line feed. -/
def Plain (r : Response) : Prop := ∀ e ∈ r.headers.entries, e.1 ∈ headerNames ∧ '\n' ∉ e.2

/-- A plain response without body. -/
structure Bare (r : Response) : Prop where
  plain : r.Plain
  body : r.body = []

theorem plain_default : ({} : Response).Plain := by
  intro e he
  rw [List.mem_singleton.mp he]
  exact ⟨by decide, by decide⟩

theorem Plain.withHeader {r : Response} (hr : r.Plain) {name value : Text}
    (hname : name ∈ headerNames) (hvalue : '\n' ∉ value) : (r.withHeader name value).Plain :=
  Headers.forall_put (P := (· ∈ headerNames)) (Q := ('\n' ∉ ·)) hname hvalue hr

theorem Bare.withHeader {r : Response} (hr : r.Bare) {name value : Text}
    (hname : name ∈ headerNames) (hvalue : '\n' ∉ value) : (r.withHeader name value).Bare :=
  ⟨hr.plain.withHeader hname hvalue, hr.body⟩

theorem Bare.withStatus {r : Response} (hr : r.Bare) (status : Nat) : (r.withStatus status).Bare :=
  ⟨hr.plain, hr.body⟩

/-- Every known name can stand in front of a colon, and none of them counts a body. -/
theorem isName_of_mem {name : Text} (h : name ∈ headerNames) :
    Headers.IsName name ∧ Headers.isContentLength name = false := by
  have hall : ∀ name ∈ headerNames,
      Headers.IsName name ∧ Headers.isContentLength name = false := by decide
  exact hall name h

/-- The first line of a response. -/
def firstLine (r : Response) : Text :=
  "RTSP/1.0 ".toList ++ Text.decimal r.status ++ ' ' :: r.reason

/-- The lines of a head: the status, and one line for each header, the one that counts the body
last. -/
def headLines (r : Response) : List Text :=
  r.firstLine :: (r.headers.entries ++ Headers.counted r.body).map Headers.line

/-- The octets of a head, its blank line included. -/
def head (r : Response) : Bytes := Utf8.encode (Text.unlines r.headLines ++ Headers.lineEnd)

theorem head?_firstLine (r : Response) : r.firstLine.head? = some 'R' := rfl

theorem oneLine_firstLine (r : Response) : Text.OneLine r.firstLine := by
  have hreason : Text.OneLine r.reason := by
    unfold reason reasonPhrase
    split <;> decide
  have hversion : Text.OneLine "RTSP/1.0 ".toList := by decide
  exact (hversion.append (Text.oneLine_decimal _)).append (.cons (by decide) hreason)

/-- **No line of a head is empty or broken.** -/
theorem Plain.notMem_headLines {r : Response} (hr : r.Plain) :
    ∀ l ∈ r.headLines, '\n' ∉ l ∧ l ≠ [] := by
  intro l hl
  rcases List.mem_cons.mp hl with rfl | hl
  · refine ⟨r.oneLine_firstLine.notMem_feed, fun hnil => ?_⟩
    have hhead := r.head?_firstLine
    rw [hnil] at hhead
    cases hhead
  · obtain ⟨e, he, rfl⟩ := List.mem_map.mp hl
    have hplain : '\n' ∉ e.1 ∧ '\n' ∉ e.2 := by
      rcases List.mem_append.mp he with he | he
      · exact ⟨(isName_of_mem (hr e he).1).1.2.1, (hr e he).2⟩
      · have hcounted := Headers.plain_counted r.body e he
        exact ⟨hcounted.1.2.1, hcounted.2.2⟩
    exact ⟨Headers.notMem_line hplain.1 hplain.2, Headers.line_ne_nil e⟩

/-- **A response is its head and its body.** -/
theorem Plain.wire_eq {r : Response} (hr : r.Plain) : r.wire = r.head ++ r.body := by
  -- no header is left out as one that counts the body
  have hall : r.headers.entries.filter (fun e => !Headers.isContentLength e.1) =
      r.headers.entries := by
    refine List.filter_eq_self.mpr fun e he => ?_
    rw [(isName_of_mem (hr e he).1).2]
    rfl
  have hfirst : r.statusLine = Text.unlines [r.firstLine] := (List.append_nil _).symm
  have hlines : r.headLines = [r.firstLine] ++ r.headers.entries.map Headers.line ++
      (Headers.counted r.body).map Headers.line := by
    simp [headLines]
  unfold wire head
  rw [hlines, Headers.text_eq_unlines, hall, hfirst, Headers.bodyHead_eq_unlines,
    Text.unlines_append, Text.unlines_append]
  simp only [List.append_assoc]

end Response

/-! ### Answers -/

theorem Request.Tame.respond {r : Request} (hr : r.Tame) : r.respond.Bare := by
  have hempty : ({} : Response).Bare := ⟨Response.plain_default, rfl⟩
  unfold Request.respond
  rcases hcseq : r.cseq? with - | cseq <;> rcases hsession : r.header? "Session" with - | session
  · exact hempty
  · exact hempty.withHeader (by decide) (hr.header? hsession)
  · exact hempty.withHeader (by decide) (hr.header? hcseq)
  · exact (hempty.withHeader (by decide) (hr.header? hcseq)).withHeader (by decide)
      (hr.header? hsession)

namespace Hub

/-- No id leaves its line. -/
def Labelled (h : Hub) : Prop := ∀ s ∈ h.sessions, ∀ id, s.id = some id → Text.OneLine id

/-- Ids are names of random words. -/
theorem Named.labelled {start : Entropy} {h : Hub} (hh : Named start h) : h.Labelled := by
  intro s hs id hid
  obtain ⟨k, -, hname⟩ := hh.made s hs id hid
  rw [hname]
  exact Entropy.oneLine_sessionName _

theorem Labelled.touch {h : Hub} (hh : h.Labelled) (peer : SocketAddress) (now : Nat) :
    (h.touch peer now).Labelled := by
  intro t ht id hid
  obtain ⟨s, hs, rfl⟩ := List.mem_map.mp ht
  refine hh s hs id ?_
  split at hid <;> exact hid

/-- The id that a SETUP tells stays on its line. -/
theorem Labelled.setUp {h after : Hub} (hh : h.Labelled) {conn : ConnId} {transport : TransportId}
    {reply : SetupReply} (hs : h.setUp conn transport = (.ok reply, after)) :
    Text.OneLine reply.id := by
  rcases h.setUp_cases conn transport with ⟨_, _, e⟩ | ⟨_, _, _, _, e⟩ | ⟨_, s, _, hentry, e⟩ <;>
    rw [e] at hs <;> injection hs with hreply _
  · cases hreply
  · cases hreply
  · obtain rfl := Except.ok.inj hreply
    show Text.OneLine (idFor h.entropy s).1
    rcases hid : s.id with - | id
    · simp only [idFor, hid, Entropy.fst_drawSession]
      exact Entropy.oneLine_sessionName _
    · simp only [idFor, hid]
      exact hh s (mem_of_entry_eq hentry).1 id hid

/-- The answer to an authorized DESCRIBE. -/
theorem describe_of_authorized {h : Hub} {r : Request} (hpass : h.isAuthorized r = true)
    (hmethod : r.method = .describe) (c : Client) (now : Nat) :
    (h.answer c r now).1 = h.describe c r := by
  simp only [answer_of_passed hpass, dispatch, hmethod]
  rfl

section Answers

variable {h : Hub} {r : Request} (hr : r.Tame)

include hr

theorem bare_answerSetUp (hh : h.Labelled) (c : Client) (offers : List TransportOffer) :
    (h.answerSetUp c r offers).1.Bare := by
  induction offers with
  | nil => exact hr.respond.withStatus _
  | cons offer rest ih =>
    unfold answerSetUp
    split
    · exact ih
    · next transport reply media _ =>
      have hh' : { h with media := media }.Labelled := hh
      split
      · exact hr.respond.withStatus _
      · next setup after hset =>
        have hid := hh'.setUp hset
        have htimeout : Text.OneLine (after.sessionHeader setup.id) :=
          (hid.append (by decide)).append (Text.oneLine_decimal _)
        exact (hr.respond.withHeader (by decide) (TransportOffer.oneLine_text _).notMem_feed
          ).withHeader (by decide) htimeout.notMem_feed

theorem bare_answerPlay (h : Hub) : (h.answerPlay r).1.Bare := by
  unfold answerPlay
  split
  · exact hr.respond.withStatus _
  · split
    · next sequence _ _ =>
      have hurl : Text.OneLine ("url=".toList ++ r.target) := .append (by decide) hr.target
      have hinfo : Text.OneLine
          ("url=".toList ++ r.target ++ ";seq=".toList ++ Text.decimal sequence.toNat) :=
        (hurl.append (by decide)).append (Text.oneLine_decimal _)
      exact (hr.respond.withHeader (by decide) (by decide)).withHeader (by decide)
        hinfo.notMem_feed
    · exact hr.respond.withStatus _
    · exact hr.respond.withStatus _

theorem bare_answerPause (h : Hub) : (h.answerPause r).1.Bare := by
  unfold answerPause
  split
  · exact hr.respond.withStatus _
  · split
    · exact hr.respond
    · exact hr.respond.withStatus _

theorem bare_answerTeardown (h : Hub) (c : Client) : (h.answerTeardown c r).1.Bare := by
  unfold answerTeardown
  split <;> exact hr.respond

theorem plain_describe (h : Hub) (c : Client) : (h.describe c r).Plain :=
  (hr.respond.plain.withHeader (by decide) (by decide)).withHeader (by decide)
    hr.target.notMem_feed

/-- Every answer but the one to DESCRIBE goes without a body. -/
theorem bare_dispatch (hh : h.Labelled) (c : Client) (hmethod : r.method ≠ .describe) :
    (h.dispatch c r).1.Bare := by
  unfold dispatch
  split
  · exact hr.respond.withHeader (by decide) (by decide)
  · next hdescribe => exact absurd hdescribe hmethod
  · exact bare_answerSetUp hr hh c _
  · exact bare_answerPlay hr h
  · exact bare_answerPause hr h
  · exact bare_answerTeardown hr h c
  · exact hr.respond
  all_goals exact hr.respond.withStatus _

theorem bare_reject (h : Hub) (ha : ∀ a ∈ h.authenticator, a.OneLine) : (h.reject r).Bare := by
  refine (hr.respond.withStatus 401).withHeader (by decide) ?_
  rcases hauth : h.authenticator with - | a
  · exact List.not_mem_nil
  · exact (Authenticator.oneLine_challenge (ha a hauth)).notMem_feed

/-- An answer is bare, or it is the answer to DESCRIBE. -/
theorem bare_answer (hh : h.Labelled) (ha : ∀ a ∈ h.authenticator, a.OneLine) (c : Client)
    (now : Nat) :
    (h.answer c r now).1.Bare ∨
      (r.method = .describe ∧ h.isAuthorized r = true ∧ (h.answer c r now).1 = h.describe c r) := by
  by_cases hpass : h.isAuthorized r = true
  · by_cases hmethod : r.method = .describe
    · exact Or.inr ⟨hmethod, hpass, describe_of_authorized hpass hmethod c now⟩
    · rw [answer_of_passed hpass]
      exact Or.inl (bare_dispatch hr (hh.touch c.peer now) c hmethod)
  · rw [answer_of_refused hpass]
    exact Or.inl (bare_reject hr _ ha)

theorem plain_answer (hh : h.Labelled) (ha : ∀ a ∈ h.authenticator, a.OneLine) (c : Client)
    (now : Nat) : (h.answer c r now).1.Plain := by
  rcases bare_answer hr hh ha c now with hbare | ⟨-, -, hdescribe⟩
  · exact hbare.plain
  · rw [hdescribe]
    exact plain_describe hr h c

end Answers

/-! ### Descriptions -/

/-- The lines of a description are ten, and stay lines. -/
theorem oneLine_descriptionLines {settings : Settings} (hs : settings.OneLine) {host : Text}
    (hhost : host.OneLine) :
    (descriptionLines settings host).length = 10 ∧
      ∀ l ∈ descriptionLines settings host, Text.OneLine l := by
  refine ⟨rfl, fun l hl => ?_⟩
  have horigin : Text.OneLine ("o=".toList ++ settings.originUser ++ ' ' :: settings.originSession
      ++ ' ' :: settings.originVersion ++ " IN IP4 ".toList ++ host) := by
    have huser : Text.OneLine ("o=".toList ++ settings.originUser) :=
      .append (by decide) hs.originUser
    exact (((huser.append (.cons (by decide) hs.originSession)).append
      (.cons (by decide) hs.originVersion)).append (by decide)).append hhost
  have hattributes : ∀ l ∈ Jpeg.attributes, Text.OneLine l := by decide
  rcases List.mem_append.mp hl with hl | hl
  · simp only [List.mem_cons, List.not_mem_nil, or_false] at hl
    rcases hl with rfl | rfl | rfl | rfl | rfl | rfl | rfl | rfl
    · decide
    · exact horigin
    · exact .append (by decide) hs.streamName
    · exact .append (by decide) hhost
    · decide
    · decide
    · decide
    · exact .append (by decide) (Text.oneLine_decimal _)
  · exact hattributes l hl

/-- The host that a description names stays on its line, wherever it comes from. -/
theorem oneLine_hostFor {h : Hub} (hs : h.settings.OneLine) (c : Client) {target : Text}
    (ht : target.OneLine) : Text.OneLine (h.hostFor c target) := by
  unfold hostFor
  split
  · next host hhost => exact hs.publicHost host hhost
  · rcases hhost : hostOf? target with - | host
    · exact c.peer.ip.oneLine_text
    · exact oneLine_hostOf? ht hhost

/-- **The body of a description is ten lines**, whatever address was asked for. -/
theorem exists_lines_of_describe {h : Hub} (hs : h.settings.OneLine) (c : Client) {r : Request}
    (hr : r.Tame) :
    ∃ ls, ls.length = 10 ∧ (∀ l ∈ ls, Text.OneLine l) ∧
      (h.describe c r).body = Utf8.encode (Text.unlines ls) := by
  obtain ⟨hlength, hlines⟩ := oneLine_descriptionLines hs (oneLine_hostFor hs c hr.target)
  exact ⟨_, hlength, hlines, rfl⟩

end Hub

end RtspServer
