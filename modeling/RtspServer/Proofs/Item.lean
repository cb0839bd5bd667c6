/-
RtspServer/Proofs/Item.lean

What a client may send on a control connection, one item after the other: `$`
frames, blank lines, and requests (`Item`).  The octets of an item in front of
any others are taken off as that item and nothing more (`Item.exchange_octets`).

The octets of a request are those of its head and its body.  The head is read
line by line up to its empty line, the body by its length; so it does not matter
what a body or a payload looks like.
-/
import RtspServer.Control.Conversation
import RtspServer.Proofs.Draft
import RtspServer.Proofs.Utf8

namespace RtspServer

/-! ### Frames -/

/-- **A frame is read as it was written**, whatever follows it. -/
theorem Frame.read_append {f : Frame} {octets : Bytes} (hw : f.write = .ok octets)
    (rest : Bytes) : Frame.read (octets ++ rest) = .ok (f, rest) := by
  unfold Frame.write at hw
  split at hw
  · next hsize =>
    obtain rfl := Except.ok.inj hw
    have hlength : (word16 (UInt8.ofNat ((UInt16.ofNat f.payload.length).toNat / 256))
        (UInt8.ofNat (UInt16.ofNat f.payload.length).toNat)).toNat = f.payload.length := by
      rw [word16_octets16, UInt16.toNat_ofNat', Nat.mod_eq_of_lt hsize]
    simp only [octets16, List.cons_append, List.nil_append, Frame.read, hlength, ne_eq,
      not_true_eq_false, if_false, List.take_left, List.drop_left, if_true]
  · cases hw

namespace Control

/-! ### Lines of octets -/

theorem takeLine_append {l : Bytes} (hl : lineFeed ∉ l) {budget : Nat} (hb : l.length < budget)
    (rest : Bytes) : takeLine budget (l ++ lineFeed :: rest) = (l ++ [lineFeed], rest) := by
  induction l generalizing budget with
  | nil =>
    obtain ⟨n, rfl⟩ : ∃ n, budget = n + 1 := Nat.exists_eq_add_one.mpr hb
    rw [List.nil_append, takeLine, if_pos rfl]
    rfl
  | cons b l ih =>
    obtain ⟨n, rfl⟩ : ∃ n, budget = n + 1 :=
      Nat.exists_eq_add_one.mpr (Nat.lt_of_le_of_lt (Nat.zero_le _) hb)
    have hne : b ≠ lineFeed := fun he => hl (he ▸ List.mem_cons_self)
    have hrest : lineFeed ∉ l := fun h => hl (List.mem_cons_of_mem _ h)
    rw [List.cons_append, takeLine, if_neg hne, ih hrest (Nat.lt_of_succ_lt_succ hb)]
    rfl

/-- One line of a head. -/
theorem readHeadFrom_of_takeLine {before input line rest : Bytes} {budget : Nat}
    (h : takeLine budget input = (line, rest)) (hne : line ≠ []) :
    readHeadFrom before budget input =
      if isEmptyLine line then .head (before ++ line) rest
      else readHeadFrom (before ++ line) (budget - line.length) rest := by
  rw [readHeadFrom]
  split
  · next h' =>
    rw [h] at h'
    exact absurd (congrArg Prod.fst h') hne
  · next b line' rest' h' =>
    rw [h] at h'
    obtain ⟨rfl, rfl⟩ := Prod.mk.inj h'
    rfl

/-- Only the line ends themselves are empty lines. -/
theorem isEmptyLine_of_length {line : Bytes} (h : 2 < line.length) : isEmptyLine line = false := by
  rw [Bool.eq_false_iff]
  intro he
  rcases Bool.or_eq_true_iff.mp he with he | he
  · rw [beq_iff_eq.mp he] at h
    exact absurd h (by decide)
  · rw [beq_iff_eq.mp he] at h
    exact absurd h (by decide)

theorem lineFeed_notMem_encode {l : Text} (hl : '\n' ∉ l) : lineFeed ∉ Utf8.encode l :=
  fun h => hl (Utf8.mem_of_mem_encode (by decide) rfl h)

/-- A line that is not empty is taken into the head. -/
theorem readHeadFrom_line {before line : Bytes} {budget : Nat} (hfeed : lineFeed ∉ line)
    (hlength : 1 < line.length) (hb : line.length < budget) (rest : Bytes) :
    readHeadFrom before budget (line ++ lineFeed :: rest) =
      readHeadFrom (before ++ (line ++ [lineFeed])) (budget - (line.length + 1)) rest := by
  have hfull : isEmptyLine (line ++ [lineFeed]) = false :=
    isEmptyLine_of_length (by rw [List.length_append]; exact Nat.succ_lt_succ hlength)
  rw [readHeadFrom_of_takeLine (takeLine_append hfeed hb rest) (by simp), hfull,
    if_neg (by nofun), List.length_append, List.length_singleton]

/-- The first line of some lines, and what follows it. -/
theorem encode_unlines_cons (l : Text) (ls : List Text) :
    Utf8.encode (Text.unlines (l :: ls) ++ Headers.lineEnd) =
      (Utf8.encode l ++ [13]) ++ lineFeed :: Utf8.encode (Text.unlines ls ++ Headers.lineEnd) := by
  have hend : Utf8.encode ['\r', '\n'] = [13, lineFeed] := by decide
  have hsplit : ∀ t : Text, l ++ '\r' :: '\n' :: t = l ++ (['\r', '\n'] ++ t) := fun _ => rfl
  rw [Text.unlines_cons, hsplit, List.append_assoc, List.append_assoc, Utf8.encode_append,
    Utf8.encode_append, hend]
  simp

/-- **A head is read up to its empty line**, if the budget allows for it. -/
theorem readHeadFrom_unlines {ls : List Text} (hls : ∀ l ∈ ls, '\n' ∉ l ∧ l ≠ [])
    {before : Bytes} {budget : Nat}
    (hb : (Utf8.encode (Text.unlines ls ++ Headers.lineEnd)).length ≤ budget) (rest : Bytes) :
    readHeadFrom before budget (Utf8.encode (Text.unlines ls ++ Headers.lineEnd) ++ rest) =
      .head (before ++ Utf8.encode (Text.unlines ls ++ Headers.lineEnd)) rest := by
  induction ls generalizing before budget with
  | nil =>
    have hend : Utf8.encode (Text.unlines [] ++ Headers.lineEnd) = [13] ++ [lineFeed] := by decide
    rw [hend] at hb ⊢
    -- only the empty line is left
    have htake : takeLine budget ([13] ++ [lineFeed] ++ rest) = ([13] ++ [lineFeed], rest) := by
      rw [List.append_assoc]
      exact takeLine_append (by decide) (Nat.lt_of_lt_of_le (by decide) hb) rest
    rw [readHeadFrom_of_takeLine htake (by decide), if_pos (by decide)]
  | cons l ls ih =>
    obtain ⟨hl, hne⟩ := hls l List.mem_cons_self
    have hrest : ∀ m ∈ ls, '\n' ∉ m ∧ m ≠ [] := fun m hm => hls m (List.mem_cons_of_mem _ hm)
    rw [encode_unlines_cons] at hb ⊢
    generalize Utf8.encode (Text.unlines ls ++ Headers.lineEnd) = tail at *
    -- the carriage return belongs to the line that is read
    have hfeed : lineFeed ∉ Utf8.encode l ++ [13] := by
      intro h
      rcases List.mem_append.mp h with h | h
      · exact lineFeed_notMem_encode hl h
      · exact absurd h (by decide)
    have hlength : 1 < (Utf8.encode l ++ [13]).length := by
      rw [List.length_append]
      exact Nat.succ_lt_succ (List.length_pos_iff.mpr (Utf8.encode_ne_nil hne))
    generalize Utf8.encode l ++ [13] = line at *
    rw [List.length_append, List.length_cons] at hb
    rw [List.append_assoc, List.cons_append, readHeadFrom_line hfeed hlength (by omega),
      ih hrest (by omega)]
    simp

/-! ### One message -/

/-- **A request is taken off whole**: its head and its body, and nothing of what follows. -/
theorem readMessage_wire {d : Draft} (hd : d.Fits) (rest : Bytes) :
    readMessage (d.request.wire ++ rest) = .ok (some (d.head ++ d.body), rest) := by
  have hread : readHead (Utf8.encode d.head ++ (Utf8.encode d.body ++ rest)) =
      .head (Utf8.encode d.head) (Utf8.encode d.body ++ rest) := by
    have hsize := hd.head
    rw [d.head_eq_unlines] at hsize ⊢
    exact readHeadFrom_unlines hd.notMem_lines hsize _
  have hblank : Text.isBlankLine d.head = false := hd.isBlankLine_head
  have hbody : ¬maxBody < (Utf8.encode d.body).length := Nat.not_lt.mpr hd.body
  -- the body is there, and what follows it is not looked at
  have hthere : ¬(Utf8.encode d.body ++ rest).length < (Utf8.encode d.body).length := by
    rw [List.length_append]
    exact Nat.not_lt.mpr (Nat.le_add_right _ _)
  unfold readMessage
  rw [d.wire_request, List.append_assoc, hread]
  simp only [Utf8.decodeLenient_encode, hblank, Bool.false_eq_true, if_false,
    hd.contentLength_head, hbody, hthere, List.take_left, List.drop_left]

/-- A blank line is taken off as nothing. -/
theorem readMessage_lineEnd {line : Bytes} (hline : isEmptyLine line = true) (rest : Bytes) :
    readMessage (line ++ rest) = .ok (none, rest) := by
  have hcases : line = [13] ++ [lineFeed] ∨ line = [] ++ [lineFeed] := by
    rcases Bool.or_eq_true_iff.mp hline with h | h
    · exact Or.inl (beq_iff_eq.mp h)
    · exact Or.inr (beq_iff_eq.mp h)
  have htake : takeLine maxHead (line ++ rest) = (line, rest) := by
    rcases hcases with rfl | rfl <;> rw [List.append_assoc] <;>
      exact takeLine_append (by decide) (by decide) rest
  have hne : line ≠ [] := by rcases hcases with rfl | rfl <;> nofun
  have hblank : Text.isBlankLine (Utf8.decodeLenient line) = true := by
    rcases hcases with rfl | rfl
    · exact congrArg Text.isBlankLine (Utf8.decodeLenient_encode ['\r', '\n'])
    · exact congrArg Text.isBlankLine (Utf8.decodeLenient_encode ['\n'])
  unfold readMessage
  rw [readHead, readHeadFrom_of_takeLine htake hne, hline, if_pos rfl, List.nil_append]
  simp only [hblank, if_true]

end Control

/-! ### Items -/

/-- One thing that a client sends. -/
inductive Item where
  /-- A `$` frame. -/
  | frame (frame : Frame)
  /-- A blank line, which ends with CR LF or with LF alone. -/
  | blank (withReturn : Bool)
  /-- A request. -/
  | request (draft : Draft)
  deriving DecidableEq, Repr

namespace Item

/-- The octets of an item. -/
def octets : Item → Bytes
  | .frame f => f.write.toOption.getD []
  | .blank true => [13, 10]
  | .blank false => [10]
  | .request d => d.request.wire

/-- Can an item be sent?  A frame announces its size in sixteen bits, and a request has to be well
formed and not too large. -/
def Fits : Item → Prop
  | .frame f => f.payload.length ≤ 65535
  | .blank _ => True
  | .request d => d.Fits

end Item

namespace Hub

/-- Deal with one item: a frame goes to the transport of the session, a request is answered. -/
def take (h : Hub) (c : Client) (now : Nat) : Item → Except Departure Client × Hub
  | .frame f => (.ok c, (h.deliver c.conn f).2)
  | .blank _ => (.ok c, h)
  | .request d => h.respond c d.received now

/-- A stream with a first octet has not ended. -/
theorem isEmpty_of_head? {input : Bytes} {b : UInt8} (hb : input.head? = some b) :
    input.isEmpty = false := by
  obtain ⟨rest, rfl⟩ := List.head?_eq_some_iff.mp hb
  rfl

theorem exchange_frame {f : Frame} (hf : f.payload.length ≤ 65535) (h : Hub) (c : Client)
    (now : Nat) (rest : Bytes) :
    h.exchange c now ((Item.frame f).octets ++ rest) =
      (.ok (c, rest), (h.deliver c.conn f).2) := by
  have hsize : f.payload.length < UInt16.size := Nat.lt_succ_of_le hf
  have hwrite : f.write = .ok (Item.frame f).octets := by
    simp [Item.octets, Frame.write, hsize, Except.toOption]
  have hhead : ((Item.frame f).octets ++ rest).head? = some Frame.opening := by
    simp [Item.octets, Frame.write, hsize, Except.toOption]
  have hne := isEmpty_of_head? hhead
  unfold exchange
  rw [hne, if_neg (by nofun), if_pos hhead, Frame.read_append hwrite]

/-- What is no frame is read as a message. -/
theorem exchange_of_head {input : Bytes} {b : UInt8} (hb : input.head? = some b)
    (hne : b ≠ Frame.opening) (h : Hub) (c : Client) (now : Nat) :
    h.exchange c now input =
      match Control.readMessage input with
      | .error departure => (.error departure, h)
      | .ok (none, rest) => (.ok (c, rest), h)
      | .ok (some raw, rest) =>
        let (outcome, h) := h.respond c (Request.ofText raw) now
        (outcome.map fun c => (c, rest), h) := by
  have hmarker : ¬input.head? = some Frame.opening := fun he =>
    hne (Option.some.inj (hb.symm.trans he))
  have hempty := isEmpty_of_head? hb
  unfold exchange
  rw [hempty]
  exact (if_neg (by nofun)).trans (if_neg hmarker)

/-- The first octet of a request is the one of its verb, which opens no frame. -/
theorem head?_wire (d : Draft) (rest : Bytes) :
    ∃ b, (d.request.wire ++ rest).head? = some b ∧ b ≠ Frame.opening := by
  obtain ⟨c, hverb⟩ := Method.isPlain_name d.method
  obtain ⟨t, ht⟩ : ∃ t, d.head = c :: t := by
    obtain ⟨tail, hfirst⟩ := List.head?_eq_some_iff.mp (Draft.head?_firstLine hverb.head)
    rw [d.head_eq_unlines, Text.unlines_cons, hfirst]
    exact ⟨_, rfl⟩
  obtain ⟨b, l, hb⟩ := List.exists_cons_of_ne_nil (String.utf8EncodeChar_ne_nil (c := c))
  refine ⟨b, ?_, ?_⟩
  · rw [d.wire_request, ht, Utf8.encode_cons, hb]
    rfl
  · -- below 128 an octet is its character, and no verb begins with a dollar sign
    rintro rfl
    have hmem : Frame.opening ∈ String.utf8EncodeChar c := hb ▸ List.mem_cons_self
    exact hverb.noMarker (Utf8.toNat_of_mem_encodeChar (by decide) hmem).symm

/-- **An item is dealt with as that item**, whatever follows it. -/
theorem exchange_octets {item : Item} (hi : item.Fits) (h : Hub) (c : Client) (now : Nat)
    (rest : Bytes) :
    h.exchange c now (item.octets ++ rest) =
      ((h.take c now item).1.map fun c => (c, rest), (h.take c now item).2) := by
  cases item with
  | frame f => exact exchange_frame hi h c now rest
  | blank withReturn =>
    have hline : Control.isEmptyLine (Item.blank withReturn).octets = true := by
      cases withReturn <;> decide
    have hhead : ∃ b, ((Item.blank withReturn).octets ++ rest).head? = some b ∧
        b ≠ Frame.opening := by
      cases withReturn <;> exact ⟨_, rfl, by decide⟩
    obtain ⟨b, hb, hne⟩ := hhead
    rw [exchange_of_head hb hne, Control.readMessage_lineEnd hline]
    rfl
  | request d =>
    obtain ⟨b, hb, hne⟩ := head?_wire d rest
    show h.exchange c now (d.request.wire ++ rest) = _
    rw [exchange_of_head hb hne, Control.readMessage_wire hi]
    show ((h.respond c (Request.ofText (d.head ++ d.body)) now).1.map _, _) = _
    rw [hi.ofText_text]
    rfl

end Hub

end RtspServer
