/-
RtspServer/Proofs/Splitting.lean

What a client makes of the octets that the server writes to it.  A client reads a
`$` frame by its size.  Anything else it reads as a head, up to the first empty
line, and a body of as many octets as the head announces (`Reader.readPart`).

Whatever the requests were, the client gets the responses and frames that were
written, one by one (`Hub.replies_split`).  No text of a request can end a head
early or announce a body, because the lines of a head are neither empty nor
broken, and no header is named Content-Length but the one that counts the body.
-/
import RtspServer.Proofs.Item
import RtspServer.Proofs.Reply

namespace RtspServer

namespace Reader

/-! ### A client's reader -/

/-- The octets CR LF CR LF. -/
def headEnd : Bytes := [13, 10, 13, 10]

/-- The octets up to and with the first CR LF CR LF, and the rest. -/
def cutHead : Bytes → Option (Bytes × Bytes)
  | [] => none
  | b :: rest =>
    if headEnd.isPrefixOf (b :: rest) then some (headEnd, rest.drop 3)
    else (cutHead rest).map fun p => (b :: p.1, p.2)

/-- The number in the first Content-Length line of a head, if it is not above `limit`, or zero if
there is no such line. -/
def announced? (limit : Nat) (head : Text) : Option Nat :=
  let parts := (Text.lines head).filterMap (Text.cut ':')
  match parts.find? fun p => Headers.isContentLength (Text.trim p.1) with
  | some (_, value) => Text.numeral? 10 (limit + 1) (Text.trim value)
  | none => some 0

/-- One thing that a client reads. -/
inductive Part where
  | frame (frame : Frame)
  | message (head body : Bytes)
  deriving DecidableEq, Repr

/-- Read one frame or message, and the rest. -/
def readPart (input : Bytes) : Option (Part × Bytes) :=
  if input.head? = some Frame.opening then
    match Frame.read input with
    | .ok (frame, rest) => some (.frame frame, rest)
    | .error _ => none
  else do
    let (head, rest) ← cutHead input
    let size ← announced? rest.length (Utf8.decodeLenient head)
    some (.message head (rest.take size), rest.drop size)

theorem length_rest_lt_of_cutHead {input head rest : Bytes}
    (h : cutHead input = some (head, rest)) : rest.length < input.length := by
  induction input generalizing head with
  | nil => cases h
  | cons b input ih =>
    unfold cutHead at h
    split at h
    · simp only [Option.some.injEq, Prod.mk.injEq] at h
      rw [← h.2, List.length_drop, List.length_cons]
      omega
    · obtain ⟨p, hp, he⟩ := Option.map_eq_some_iff.mp h
      obtain ⟨-, rfl⟩ := Prod.mk.inj he
      exact Nat.lt_succ_of_lt (ih hp)

theorem length_rest_lt_of_readPart {input rest : Bytes} {part : Part}
    (h : readPart input = some (part, rest)) : rest.length < input.length := by
  unfold readPart at h
  split at h
  · split at h
    · next hread =>
      simp only [Option.some.injEq, Prod.mk.injEq] at h
      exact h.2 ▸ Frame.length_rest_lt hread
    · cases h
  · obtain ⟨⟨head, after⟩, hcut, h⟩ := Option.bind_eq_some_iff.mp h
    obtain ⟨size, -, h⟩ := Option.bind_eq_some_iff.mp h
    simp only [Option.some.injEq, Prod.mk.injEq] at h
    have hlt := length_rest_lt_of_cutHead hcut
    rw [← h.2, List.length_drop]
    omega

/-- Read until nothing is left. -/
def readParts (input : Bytes) : Option (List Part) :=
  if input.isEmpty then some []
  else
    match _h : readPart input with
    | none => none
    | some (part, rest) => (readParts rest).map (part :: ·)
  termination_by input.length
  decreasing_by exact length_rest_lt_of_readPart _h

/-! ### Heads -/

theorem cutHead_of_not_prefix {b : UInt8} {rest : Bytes}
    (h : headEnd.isPrefixOf (b :: rest) = false) :
    cutHead (b :: rest) = (cutHead rest).map fun p => (b :: p.1, p.2) := by
  rw [cutHead, h, if_neg nofun]

/-- No empty line begins where the next octet but one is no line feed. -/
theorem isPrefixOf_headEnd {rest : Bytes} (hrest : rest.head? ≠ some 10) (b : UInt8) :
    headEnd.isPrefixOf (b :: rest) = false := by
  rcases rest with - | ⟨c, rest⟩
  · simp [headEnd, List.isPrefixOf]
  · have hc : c ≠ 10 := fun he => hrest (he ▸ rfl)
    simp [headEnd, List.isPrefixOf, Ne.symm hc]

theorem head?_append_return {l : Bytes} (hl : Control.lineFeed ∉ l) (u : Bytes) :
    (l ++ 13 :: u).head? ≠ some 10 := by
  rcases l with - | ⟨c, l⟩
  · exact fun h => absurd (Option.some.inj h) (by decide)
  · exact fun h => hl (Option.some.inj h ▸ List.mem_cons_self)

/-- A line that is not empty does not begin with its end. -/
theorem isPrefixOf_lineEnd {l : Bytes} (hl : Control.lineFeed ∉ l) (hne : l ≠ []) (u : Bytes) :
    [13, 10].isPrefixOf (l ++ 13 :: u) = false := by
  obtain ⟨b, l, rfl⟩ := List.exists_cons_of_ne_nil hne
  have hrest : Control.lineFeed ∉ l := fun h => hl (List.mem_cons_of_mem _ h)
  have hhead := head?_append_return hrest u
  rw [List.cons_append]
  rcases e : l ++ 13 :: u with - | ⟨c, t⟩
  · simp [List.isPrefixOf]
  · have hc : c ≠ 10 := fun he => hhead (by rw [e, he]; rfl)
    simp [List.isPrefixOf, Ne.symm hc]

/-- A head does not end inside a line, or at its end if what follows is no empty line. -/
theorem cutHead_line {l u : Bytes} (hl : Control.lineFeed ∉ l)
    (hu : [13, 10].isPrefixOf u = false) :
    cutHead (l ++ 13 :: 10 :: u) = (cutHead u).map fun p => (l ++ 13 :: 10 :: p.1, p.2) := by
  induction l with
  | nil =>
    have hreturn : headEnd.isPrefixOf (13 :: 10 :: u) = false := hu
    have hfeed : headEnd.isPrefixOf (10 :: u) = false := rfl
    rw [List.nil_append, cutHead_of_not_prefix hreturn, cutHead_of_not_prefix hfeed, Option.map_map]
    rfl
  | cons c l ih =>
    have hrest : Control.lineFeed ∉ l := fun h => hl (List.mem_cons_of_mem _ h)
    rw [List.cons_append,
      cutHead_of_not_prefix (isPrefixOf_headEnd (head?_append_return hrest _) c), ih hrest,
      Option.map_map]
    rfl

/-- A head ends where its last line does, and the empty line after it. -/
theorem cutHead_last {l : Bytes} (hl : Control.lineFeed ∉ l) (u : Bytes) :
    cutHead (l ++ (headEnd ++ u)) = some (l ++ headEnd, u) := by
  induction l with
  | nil => rfl
  | cons c l ih =>
    have hrest : Control.lineFeed ∉ l := fun h => hl (List.mem_cons_of_mem _ h)
    have hno : headEnd.isPrefixOf (c :: (l ++ (headEnd ++ u))) = false :=
      isPrefixOf_headEnd (head?_append_return hrest _) c
    rw [List.cons_append, cutHead_of_not_prefix hno, ih hrest]
    rfl

/-- **The first empty line is the one that ends the head**, if no line of the head is empty or
broken. -/
theorem cutHead_unlines {ls : List Text} (hne : ls ≠ []) (hls : ∀ l ∈ ls, '\n' ∉ l ∧ l ≠ [])
    (body : Bytes) :
    cutHead (Utf8.encode (Text.unlines ls ++ Headers.lineEnd) ++ body) =
      some (Utf8.encode (Text.unlines ls ++ Headers.lineEnd), body) := by
  induction ls with
  | nil => exact absurd rfl hne
  | cons l rest ih =>
    have hl := Control.lineFeed_notMem_encode (hls l List.mem_cons_self).1
    have hrest : ∀ m ∈ rest, '\n' ∉ m ∧ m ≠ [] := fun m hm => hls m (List.mem_cons_of_mem _ hm)
    rw [Control.encode_unlines_cons]
    rcases rest with - | ⟨m, rest⟩
    · have hend : Utf8.encode (Text.unlines [] ++ Headers.lineEnd) = [13, 10] := by decide
      have hlast := cutHead_last hl body
      rw [hend]
      simpa [headEnd, Control.lineFeed] using hlast
    · -- the next line is not empty, so the head goes on
      obtain ⟨hfeed, hfull⟩ := hrest m List.mem_cons_self
      have hnext : [13, 10].isPrefixOf
          (Utf8.encode (Text.unlines (m :: rest) ++ Headers.lineEnd) ++ body) = false := by
        rw [Control.encode_unlines_cons, List.append_assoc, List.append_assoc]
        exact isPrefixOf_lineEnd (Control.lineFeed_notMem_encode hfeed) (Utf8.encode_ne_nil hfull) _
      have hstep := cutHead_line hl hnext
      rw [ih (List.cons_ne_nil _ _) hrest, Option.map_some] at hstep
      simpa [Control.lineFeed] using hstep

/-! ### Bodies -/

/-- **The head of a response announces its body.** -/
theorem announced?_headLines {r : Response} (hr : r.Plain) {limit : Nat}
    (hlimit : r.body.length ≤ limit) :
    announced? limit (Text.unlines r.headLines ++ Headers.lineEnd) = some r.body.length := by
  have hlines : Text.lines (Text.unlines r.headLines ++ Headers.lineEnd) =
      r.firstLine :: (r.headers.entries ++ Headers.counted r.body).map Headers.line ++ [[]] := by
    have hend : Headers.lineEnd = Text.unlines [[]] := rfl
    rw [hend, ← Text.unlines_append]
    refine Text.lines_unlines fun l hl => ?_
    rcases List.mem_append.mp hl with hl | hl
    · exact (hr.notMem_headLines l hl).1
    · rw [List.mem_singleton.mp hl]
      exact List.not_mem_nil
  -- the status line begins with an R
  have hfirst : ∀ p, Text.cut ':' r.firstLine = some p →
      Headers.isContentLength (Text.trim p.1) = false := by
    intro p hp
    have hr' : r.firstLine = 'R' :: r.firstLine.tail := rfl
    rw [hr', Text.cut_cons (by decide)] at hp
    obtain ⟨q, -, rfl⟩ := Option.map_eq_some_iff.mp hp
    rw [Bool.eq_false_iff]
    intro hlength
    have hhead := Text.head?_trim (show isBlank 'R' = false by decide) q.1
    exact absurd (Headers.toLower_of_isContentLength hhead hlength) (by decide)
  have hfind := Headers.find?_cut_lines hfirst
    (fun e he => Response.isName_of_mem (hr e he).1) r.body
  unfold announced?
  simp only [hlines, hfind]
  unfold Headers.counted
  rcases he : r.body.isEmpty with _ | _
  · rw [if_neg nofun]
    simp only [List.head?_cons, Option.map_some]
    rw [Headers.trim_value (Headers.isValue_decimal _),
      Text.numeral?_decimal (Nat.lt_succ_of_le hlimit)]
  · -- without a line there is no body
    rw [if_pos rfl]
    exact congrArg some (List.length_eq_zero_iff.mpr (List.isEmpty_iff.mp he)).symm

end Reader

/-! ### What the server writes -/

/-- One thing that is written on a control connection. -/
inductive Written where
  | frame (frame : Frame)
  | response (response : Response)
  deriving DecidableEq, Repr

namespace Written

/-- The octets that are written. -/
def octets : Written → Bytes
  | .frame f => f.write.toOption.getD []
  | .response r => r.wire

/-- What a client is to read. -/
def part : Written → Reader.Part
  | .frame f => .frame f
  | .response r => .message r.head r.body

/-- A frame announces its size in sixteen bits, and the headers of a response are plain. -/
def Fits : Written → Prop
  | .frame f => f.payload.length ≤ 65535
  | .response r => r.Plain

end Written

namespace Reader

/-- **What is written is read as what it was**, whatever follows it. -/
theorem readPart_octets {w : Written} (hw : w.Fits) (rest : Bytes) :
    readPart (w.octets ++ rest) = some (w.part, rest) := by
  cases w with
  | frame f =>
    have hsize : f.payload.length < UInt16.size := Nat.lt_succ_of_le hw
    have hwrite : f.write = .ok (Written.frame f).octets := by
      simp [Written.octets, Frame.write, hsize, Except.toOption]
    have hhead : ((Written.frame f).octets ++ rest).head? = some Frame.opening := by
      simp [Written.octets, Frame.write, hsize, Except.toOption]
    rw [readPart, if_pos hhead, Frame.read_append hwrite]
    rfl
  | response r =>
    have hr : r.Plain := hw
    have hlines := hr.notMem_headLines
    have hcut : cutHead (r.head ++ (r.body ++ rest)) = some (r.head, r.body ++ rest) :=
      cutHead_unlines (List.cons_ne_nil _ _) hlines _
    have hannounced : announced? (r.body ++ rest).length (Utf8.decodeLenient r.head) =
        some r.body.length := by
      rw [Response.head, Utf8.decodeLenient_encode]
      refine announced?_headLines hr ?_
      rw [List.length_append]
      exact Nat.le_add_right _ _
    -- a status line begins with an R, so this is no frame
    have hhead : ¬(r.head ++ (r.body ++ rest)).head? = some Frame.opening := by
      have hstart : (r.head ++ (r.body ++ rest)).head? = some 82 := rfl
      rw [hstart]
      decide
    show readPart (r.wire ++ rest) = _
    rw [hr.wire_eq, List.append_assoc, readPart, if_neg hhead, hcut]
    simp only [Option.bind_eq_bind, Option.bind_some, hannounced, List.take_left, List.drop_left]
    rfl

/-- **A client reads what was written**, one by one. -/
theorem readParts_flatMap {ws : List Written} (hws : ∀ w ∈ ws, w.Fits) :
    readParts (ws.flatMap Written.octets) = some (ws.map Written.part) := by
  induction ws with
  | nil => rw [List.flatMap_nil, readParts]; rfl
  | cons w rest ih =>
    have hread := readPart_octets (hws w List.mem_cons_self) (rest.flatMap Written.octets)
    have hne : (w.octets ++ rest.flatMap Written.octets).isEmpty = false := by
      rw [List.isEmpty_eq_false_iff]
      intro hnil
      have hlt := length_rest_lt_of_readPart hread
      rw [hnil] at hlt
      exact absurd hlt (Nat.not_lt_zero _)
    rw [List.flatMap_cons, readParts, hne, if_neg nofun]
    split
    · next h => cases h.symm.trans hread
    · next part after h =>
      obtain ⟨rfl, rfl⟩ := Prod.mk.inj (Option.some.inj (h.symm.trans hread))
      rw [ih fun v hv => hws v (List.mem_cons_of_mem _ hv)]
      rfl

end Reader

namespace Hub

/-! ### After any run -/

section Opened

variable (settings : Settings) (authenticator : Option Authenticator)
  (packetizer : Jpeg.Packetizer) (entropy : Entropy) (ports : PortPool) (linkFault : Option Text)

theorem labelled_run (operations : List Operation) :
    ((opened settings authenticator packetizer entropy ports linkFault).run operations).Labelled :=
  (run_induction (fun hn hp hc => hp.change hn hc)
    (numbered_opened settings authenticator packetizer entropy ports linkFault)
    (named_opened settings authenticator packetizer entropy ports linkFault) operations).labelled

/-- **No request breaks the stream of responses.**  Let no text that the owner has chosen leave its
line.  Whatever text a client sends, and in whatever state the hub is then:

* the response is its head and its body; the head is the status line, one line for each header,
  a Content-Length only for a body that is not empty, and an empty line; none of the other lines is
  empty, none holds a line feed and none else counts the body;
* the first CR LF CR LF of the response is the end of its head;
* the body is that of a description, which is ten lines without CR and LF, or it is empty.

So a client that takes a frame by its size, and a response up to its first CR LF CR LF with as many
octets after it as it announces, reads what was written, response by response and frame by frame. -/
theorem replies_split (hs : settings.OneLine) (ha : ∀ a ∈ authenticator, a.OneLine) :
    (∀ (operations : List Operation) (raw : Text) (c : Client) (now : Nat),
      let h := (opened settings authenticator packetizer entropy ports linkFault).run operations
      let r := Request.ofText raw
      let response := (h.answer c r now).1
      (response.wire =
          Utf8.encode (Text.unlines response.headLines ++ Headers.lineEnd) ++ response.body ∧
        response.headLines = response.firstLine :: (response.headers.entries.map Headers.line ++
          if response.body = [] then []
          else ["Content-Length: ".toList ++ Text.decimal response.body.length]) ∧
        (∀ l ∈ response.headLines, '\n' ∉ l ∧ l ≠ []) ∧
        ∀ e ∈ response.headers.entries, Headers.isContentLength e.1 = false) ∧
      Reader.cutHead response.wire = some (response.head, response.body) ∧
      (r.method = .describe ∧ h.isAuthorized r = true → ∃ ls, ls.length = 10 ∧
        (∀ l ∈ ls, Text.OneLine l) ∧ response.body = Utf8.encode (Text.unlines ls)) ∧
      (¬(r.method = .describe ∧ h.isAuthorized r = true) → response.body = [])) ∧
    ∀ ws : List Written,
      (∀ f, .frame f ∈ ws → f.payload.length ≤ 65535) →
      (∀ response, .response response ∈ ws → ∃ operations raw c now,
        response = (((opened settings authenticator packetizer entropy ports linkFault).run
          operations).answer c (Request.ofText raw) now).1) →
      Reader.readParts (ws.flatMap Written.octets) = some (ws.map Written.part) := by
  have hn := numbered_opened settings authenticator packetizer entropy ports linkFault
  have hauth : ∀ operations, ∀ a ∈ ((opened settings authenticator packetizer entropy ports
      linkFault).run operations).authenticator, a.OneLine := fun operations => by
    rw [(choices_run hn operations).2]
    exact ha
  have hplain : ∀ operations raw c now, (((opened settings authenticator packetizer entropy ports
      linkFault).run operations).answer c (Request.ofText raw) now).1.Plain :=
    fun operations raw c now => plain_answer (Request.tame_ofText raw)
      (labelled_run settings authenticator packetizer entropy ports linkFault operations)
      (hauth operations) c now
  refine ⟨fun operations raw c now => ?_, fun ws hframes hresponses => ?_⟩
  · intro h r response
    have hr : response.Plain := hplain operations raw c now
    have htame : r.Tame := Request.tame_ofText raw
    have hsettings : h.settings.OneLine := by
      rw [show h.settings = settings from (choices_run hn operations).1]
      exact hs
    have hcounted : response.headLines =
        response.firstLine :: (response.headers.entries.map Headers.line ++
          if response.body = [] then []
          else ["Content-Length: ".toList ++ Text.decimal response.body.length]) := by
      unfold Response.headLines Headers.counted
      rw [List.map_append]
      by_cases hbody : response.body = []
      · rw [if_pos hbody, hbody]
        rfl
      · rw [if_neg hbody, if_neg (fun he => hbody (List.isEmpty_iff.mp he))]
        rfl
    refine ⟨⟨hr.wire_eq, hcounted, hr.notMem_headLines,
      fun e he => (Response.isName_of_mem (hr e he).1).2⟩, ?_, ?_, ?_⟩
    · rw [hr.wire_eq]
      exact Reader.cutHead_unlines (List.cons_ne_nil _ _) hr.notMem_headLines _
    · rintro ⟨hmethod, hpass⟩
      have hdescribe : response = h.describe c r := describe_of_authorized hpass hmethod c now
      rw [hdescribe]
      exact exists_lines_of_describe hsettings c htame
    · intro hother
      rcases bare_answer htame
        (labelled_run settings authenticator packetizer entropy ports linkFault operations)
        (hauth operations) c now with hbare | ⟨hmethod, hpass, -⟩
      · exact hbare.body
      · exact absurd ⟨hmethod, hpass⟩ hother
  · refine Reader.readParts_flatMap fun w hw => ?_
    cases w with
    | frame f => exact hframes f hw
    | response r =>
      obtain ⟨operations, raw, c, now, rfl⟩ := hresponses r hw
      exact hplain operations raw c now

end Opened

/-- A request whose address and headers try to end the head before its time. -/
def smuggler : Text :=
  "DESCRIBE rtsp://a\rb RTSP/1.0\r\nCSeq: 1\r\rContent-Length: 9\nSession: 2\r\r\n\r\n".toList

theorem smuggler_split :
    let guard : Authenticator := .basic ⟨"admin".toList, "secret".toList, "cam".toList⟩
    let packetizer : Jpeg.Packetizer := { mtu_pos := Nat.succ_pos 1399 }
    let entropy : Entropy := ⟨UInt16.ofNat, UInt32.ofNat, UInt64.ofNat, 0, 0, 0⟩
    let h := opened {} (some guard) packetizer entropy {} none
    let client : Client := { conn := 1, peer := ⟨.v4 127 0 0 1, 4000, 0⟩, outlet := 0 }
    let response := (h.answer client (Request.ofText smuggler) 0).1
    Settings.OneLine {} ∧ guard.OneLine ∧
      Reader.cutHead response.wire = some (response.head, response.body) ∧
      Reader.readParts (response.wire ++ response.wire) =
        some [.message response.head response.body, .message response.head response.body] := by
  intro guard packetizer entropy h client response
  have hs : Settings.OneLine {} :=
    ⟨fun _ h => (Option.not_mem_none _ h).elim, by decide, by decide, by decide, by decide⟩
  have ha : guard.OneLine := by
    show Text.OneLine "cam".toList
    decide
  obtain ⟨hone, hall⟩ := replies_split {} (some guard) packetizer entropy {} none hs
    fun a h => Option.some.inj h ▸ ha
  have htwice := hall [.response response, .response response]
    (fun f hf => by simp at hf) fun r hr => by
      refine ⟨[], smuggler, client, 0, ?_⟩
      simp only [List.mem_cons, Written.response.injEq, List.not_mem_nil, or_false, or_self] at hr
      exact hr
  exact ⟨hs, ha, (hone [] smuggler client 0).2.1,
    by simpa [Written.octets, Written.part] using htwice⟩

end Hub

end RtspServer
