/-
RtspServer/Proofs/Rewriting.lean

A request that has been read can be written (`Request.writable_of_parse`).  The
reader is lenient, but what it hands on is not: words are left of the first
line, a header is trimmed and cut at its first colon, and a name that comes a
second time takes the place of the first.  So nothing in the request can end a
line or the head when it is written.

Hence reading and writing settle at once: what has been read, written and read
again is the same request with its Content-Length counted anew, and it is
written as before (`Request.parse_wire`).
-/
import RtspServer.Proofs.HeadLines
import RtspServer.Proofs.OneLine
import RtspServer.Proofs.Scheme
import RtspServer.Proofs.Utf8

namespace RtspServer

/-! ### Words -/

namespace Text

/-- A text with a character that separates nothing has a piece that is not empty. -/
theorem exists_mem_splitBy {p : Char → Bool} {t : Text} (ht : ∃ c ∈ t, p c = false) :
    ∃ piece ∈ splitBy p t, piece ≠ [] := by
  induction t with
  | nil => exact absurd ht (by simp)
  | cons d t ih =>
    cases hd : p d with
    | true =>
      have hrest : ∃ c ∈ t, p c = false := by
        obtain ⟨c, hc, hpc⟩ := ht
        rcases List.mem_cons.mp hc with rfl | hc
        · exact absurd (hd.symm.trans hpc) (by decide)
        · exact ⟨c, hc, hpc⟩
      obtain ⟨piece, hpiece, hne⟩ := ih hrest
      rw [splitBy_cons_of_pos hd]
      exact ⟨piece, List.mem_cons_of_mem _ hpiece, hne⟩
    | false =>
      obtain ⟨piece, rest, hsplit⟩ := List.exists_cons_of_ne_nil (splitBy_ne_nil p t)
      rw [splitBy_cons_of_neg hd hsplit]
      exact ⟨d :: piece, List.mem_cons_self, List.cons_ne_nil _ _⟩

/-- A line that is not blank has a word. -/
theorem words_ne_nil {t : Text} (ht : t.isBlankLine = false) : words t ≠ [] := by
  have hsolid : ∃ c ∈ t, isBlank c = false := by
    simpa [isBlankLine] using ht
  obtain ⟨piece, hpiece, hne⟩ := exists_mem_splitBy hsolid
  exact List.ne_nil_of_mem (List.mem_filter.mpr ⟨hpiece, by simpa using hne⟩)

theorem isWord_of_mem_words {t w : Text} (hw : w ∈ words t) : w.IsWord where
  ne_nil := by simpa using (List.mem_filter.mp hw).2
  solid := isBlank_of_mem_words hw

/-- A word at a place of a line, or the word that stands for it. -/
theorem isWord_getD {t usual : Text} (husual : usual.IsWord) (n : Nat) :
    ((words t).getD n usual).IsWord := by
  show ((words t)[n]?.getD usual).IsWord
  rcases hword : (words t)[n]? with - | w
  · exact husual
  · exact isWord_of_mem_words (List.mem_of_getElem? hword)

/-- The first word of a line that is not blank. -/
theorem isWord_first {t : Text} (ht : t.isBlankLine = false) : ((words t).getD 0 []).IsWord := by
  obtain ⟨w, rest, hwords⟩ := List.exists_cons_of_ne_nil (words_ne_nil ht)
  rw [hwords]
  exact isWord_of_mem_words (hwords ▸ List.mem_cons_self)

end Text

/-! ### Headers -/

namespace Headers

/-- What stands before the first colon of a line can be a name, once it is trimmed. -/
theorem isName_of_cut {l name value : Text} (hl : '\n' ∉ l)
    (hcut : Text.cut ':' l = some (name, value)) : IsName (Text.trim name) :=
  ⟨Text.trim_trim name, fun h => hl ((Text.subset_of_cut hcut).1 (Text.trim_subset _ h)),
    fun h => (Text.cut_eq_some_iff.mp hcut).2 (Text.trim_subset _ h)⟩

/-- And what stands behind it can be a value. -/
theorem isValue_of_cut {l name value : Text} (hl : '\n' ∉ l)
    (hcut : Text.cut ':' l = some (name, value)) : IsValue (Text.trim value) :=
  ⟨Text.trim_trim value, fun h => hl ((Text.subset_of_cut hcut).2 (Text.trim_subset _ h))⟩

end Headers

/-! ### Requests -/

namespace Request

/-- **Headers that have been read can be written**: names and values stand on their lines, and no
name comes twice. -/
theorem plain_readHeaders {ls : List Text} (hls : ∀ l ∈ ls, '\n' ∉ l) {read : Headers}
    (hread : readHeaders Headers.empty ls = .ok read) :
    (∀ e ∈ read.entries, Headers.IsName e.1 ∧ Headers.IsValue e.2) ∧
      Headers.Distinct read.entries := by
  refine readHeaders_induct
    (P := fun h => (∀ e ∈ h.entries, Headers.IsName e.1 ∧ Headers.IsValue e.2) ∧
      Headers.Distinct h.entries) ?_ ⟨fun _ he => absurd he List.not_mem_nil, .nil⟩ hread
  intro l hl name value hcut h ⟨hplain, hdistinct⟩
  have hname := Headers.isName_of_cut (hls l hl) hcut
  have hvalue := Headers.isValue_of_cut (hls l hl) hcut
  exact ⟨Headers.forall_put hname hvalue hplain, hdistinct.put _ _⟩

/-- **A request that has been read can be written.** -/
theorem writable_of_parse {raw : Text} {r : Request} (h : parse raw = .ok r) : r.Writable := by
  rcases hsplit : splitHead raw with ⟨front, after⟩
  obtain ⟨first, rest, hlines, hfirst, hofLines, -⟩ := exists_of_parse hsplit h
  obtain ⟨hread, hverb, hmethod, htarget, hversion⟩ := of_ofLines hofLines
  have hrest : ∀ l ∈ rest, '\n' ∉ l := fun l hl =>
    Text.notMem_of_mem_lines (hlines ▸ List.mem_cons_of_mem _ hl)
  obtain ⟨hheaders, hdistinct⟩ := plain_readHeaders hrest hread
  have hstar : Text.IsWord ['*'] := by decide
  have husual : Text.IsWord protocolVersion := by decide
  exact {
    verb := hverb ▸ Text.isWord_first hfirst
    target := htarget ▸ Text.isWord_getD hstar 1
    version := hversion ▸ Text.isWord_getD husual 2
    method := hmethod
    headers := hheaders
    distinct := hdistinct }

/-- The body of a request that has been read is text. -/
theorem exists_body_of_parse {raw : Text} {r : Request} (h : parse raw = .ok r) :
    ∃ body, r.body = Utf8.encode body := by
  rcases hsplit : splitHead raw with ⟨front, after⟩
  exact ⟨after, (of_parse hsplit h).2⟩

/-- **Reading and writing settle.**  A request that has been read is written as text, and from that
text a request is read that differs in nothing but the Content-Length: no header counts the body
but one at the end, which is there if the body is not empty.  That request is written in the same
octets. -/
theorem parse_wire {raw : Text} {r : Request} (h : parse raw = .ok r) :
    ∃ text, Utf8.decode? r.wire = some text ∧ ∃ again, parse text = .ok again ∧
      again.method = r.method ∧ again.verb = r.verb ∧ again.target = r.target ∧
      again.version = r.version ∧ again.body = r.body ∧ again.offers? = r.offers? ∧
      again.headers.entries =
        (r.headers.entries.filter fun e => !e.1.eqFold "Content-Length".toList) ++
          (if r.body = [] then []
            else [("Content-Length".toList, Text.decimal r.body.length)]) ∧
      again.wire = r.wire := by
  obtain ⟨body, hbody⟩ := exists_body_of_parse h
  have hwire : r.wire = Utf8.encode (r.head ++ body) := by
    rw [wire_eq, hbody, Utf8.encode_append]
  have hcounted : Headers.counted r.body =
      if r.body = [] then [] else [("Content-Length".toList, Text.decimal r.body.length)] := by
    simp only [Headers.counted, List.isEmpty_iff]
  refine ⟨r.head ++ body, Utf8.decode?_eq_some_iff.mpr hwire, r.recounted,
    (writable_of_parse h).parse_head hbody, rfl, rfl, rfl, rfl, rfl, r.offers?_recounted, ?_,
    r.wire_recounted⟩
  rw [← hcounted]
  rfl

/-- A request that takes every liberty: line feeds alone end its lines, blanks stand around the
words, which are one too many, and around names and values, a name comes twice in two spellings
and one is empty, and the body, which is counted wrong, has an empty line in it. -/
def looseText : Text :=
  ("  SETUP\trtsp://h/a  RTSP/1.0 more \ncseq : 1\n:\u00a0x y\r\ncontent-LENGTH: 99\n" ++
    "Transport:RTP/AVP/TCP\nCSeq:2\n\na\n\nb\r\n\r").toList

/-- What it is read as. -/
def looseRequest : Request where
  method := .setup
  target := "rtsp://h/a".toList
  headers := ⟨[("cseq".toList, "2".toList), ([], "x y".toList),
    ("content-LENGTH".toList, "99".toList), ("Transport".toList, "RTP/AVP/TCP".toList)]⟩
  body := Utf8.encode "a\n\nb\r\n\r".toList

/-- A loose request is read, written and read again. -/
theorem parse_wire_looseText :
    parse looseText = .ok looseRequest ∧
      ∃ text, Utf8.decode? looseRequest.wire = some text ∧ ∃ again, parse text = .ok again ∧
        again.offers? = looseRequest.offers? ∧
        again.headers.entries = [("cseq".toList, "2".toList), ([], "x y".toList),
          ("Transport".toList, "RTP/AVP/TCP".toList), ("Content-Length".toList, "7".toList)] ∧
        again.wire = looseRequest.wire := by
  have hread : parse looseText = .ok looseRequest := by decide +kernel
  obtain ⟨text, htext, again, hagain, -, -, -, -, -, hoffers, hheaders, hwire⟩ := parse_wire hread
  exact ⟨hread, text, htext, again, hagain, hoffers, hheaders.trans (by decide +kernel), hwire⟩

end Request

end RtspServer
