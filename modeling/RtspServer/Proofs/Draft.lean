/-
RtspServer/Proofs/Draft.lean

Requests as a client builds them, and what becomes of them on the way.  A draft
is a verb, an address, headers set one after the other, and a text for the body
(`Draft`).  If its parts can stand in a head (`Draft.Fits`), the text of the
request is read as the request it was made from, but for the Content-Length,
which is counted anew (`Draft.parse_text`).

The request of a draft can be written on lines (`Draft.Fits.writable`), so all
this is known of it, and its head tells how long its body is.
-/
import RtspServer.Control.Message
import RtspServer.Proofs.HeadLines

namespace RtspServer

/-! ### Verbs -/

/-- A verb begins with a letter other than C, which opens no frame, and holds neither blank, line
feed nor colon. -/
structure Method.IsPlain (verb : Text) (c : Char) : Prop where
  head : verb.head? = some c
  notC : c.toLower ≠ 'c'
  noMarker : c.toNat ≠ Frame.opening.toNat
  solid : ∀ d ∈ verb, isBlank d = false
  noColon : ':' ∉ verb

theorem Method.isPlain_name (m : Method) : ∃ c, Method.IsPlain m.name c := by
  cases m <;> exact ⟨_, rfl, by decide, by decide, Text.isBlank_of_isSolid (by decide), by decide⟩

/-! ### Drafts -/

/-- What a request is built from. -/
structure Draft where
  method : Method
  target : Text
  headers : List (Text × Text) := []
  body : Text := []
  deriving DecidableEq, Repr

namespace Draft

/-- The request of a draft: its headers are set one after the other. -/
def request (d : Draft) : Request :=
  let bare : Request := { method := d.method, target := d.target }
  (d.headers.foldl (fun r e => r.withHeader e.1 e.2) bare).withBody (Utf8.encode d.body)

/-- The request as it is received: a Content-Length, if there was one, has made room for the one
that counts the body. -/
def received (d : Draft) : Request :=
  { d.request with headers :=
      ⟨(d.request.headers.entries.filter fun e => !Headers.isContentLength e.1) ++
        Headers.counted d.request.body⟩ }

/-- The head of the request, its empty line included. -/
def head (d : Draft) : Text :=
  d.request.requestLine ++ d.request.headers.text ++ Headers.bodyHead d.request.body

/-- Can the parts of a draft stand in a request, and is it small enough to be taken? -/
structure Fits (d : Draft) : Prop where
  target_ne : d.target ≠ []
  target_solid : ∀ c ∈ d.target, isBlank c = false
  headers : ∀ e ∈ d.headers, Headers.IsName e.1 ∧ Headers.IsValue e.2
  head : (Utf8.encode d.head).length ≤ Control.maxHead
  body : (Utf8.encode d.body).length ≤ Control.maxBody

/-! ### The headers of a draft -/

theorem foldl_withHeader (r : Request) (headers : List (Text × Text)) :
    headers.foldl (fun r e => r.withHeader e.1 e.2) r =
      { r with headers :=
          ⟨headers.foldl (fun entries e => Headers.put e.1 e.2 entries) r.headers.entries⟩ } := by
  induction headers generalizing r with
  | nil => rfl
  | cons e rest ih => exact ih (r.withHeader e.1 e.2)

theorem request_eq (d : Draft) :
    d.request = { method := d.method, target := d.target,
                  headers := ⟨d.headers.foldl (fun entries e => Headers.put e.1 e.2 entries) []⟩,
                  body := Utf8.encode d.body } := by
  rw [request, foldl_withHeader]
  rfl

theorem wire_request (d : Draft) :
    d.request.wire = Utf8.encode d.head ++ Utf8.encode d.body := by
  rw [head, request_eq]
  rfl

/-- What setting headers one after the other preserves holds of all of them. -/
theorem entries_induction {P : List (Text × Text) → Prop} (d : Draft) (hnil : P [])
    (hput : ∀ e ∈ d.headers, ∀ entries, P entries → P (Headers.put e.1 e.2 entries)) :
    P d.request.headers.entries := by
  rw [request_eq]
  show P (d.headers.foldl (fun entries e => Headers.put e.1 e.2 entries) [])
  exact List.foldlRecOn d.headers _ hnil fun entries hp e he => hput e he entries hp

theorem distinct_entries (d : Draft) : Headers.Distinct d.request.headers.entries :=
  d.entries_induction .nil fun e _ _ h => h.put e.1 e.2

theorem Fits.plain_entries {d : Draft} (hd : d.Fits) :
    ∀ e ∈ d.request.headers.entries, Headers.IsName e.1 ∧ Headers.IsValue e.2 :=
  d.entries_induction (P := fun entries => ∀ e ∈ entries, Headers.IsName e.1 ∧ Headers.IsValue e.2)
    (fun _ h => absurd h List.not_mem_nil) fun e he _ h =>
      Headers.forall_put (hd.headers e he).1 (hd.headers e he).2 h

/-- A draft that fits is a request that can be written. -/
theorem Fits.writable {d : Draft} (hd : d.Fits) : d.request.Writable := by
  have hverb : d.method.name.IsWord := by
    obtain ⟨c, hplain⟩ := Method.isPlain_name d.method
    refine ⟨fun hnil => ?_, hplain.solid⟩
    have hhead := hplain.head
    rw [hnil] at hhead
    cases hhead
  have hversion : protocolVersion.IsWord := ⟨by decide, Text.isBlank_of_isSolid (by decide)⟩
  have hrequest := d.request_eq
  refine ⟨?_, ?_, ?_, ?_, hd.plain_entries, d.distinct_entries⟩ <;> rw [hrequest]
  · exact hverb
  · exact ⟨hd.target_ne, hd.target_solid⟩
  · exact hversion
  · exact (Method.ofVerb_name d.method).symm

/-- The transports that a request offers are received as they were written. -/
theorem offers?_received (d : Draft) : d.received.offers? = d.request.offers? :=
  d.request.offers?_recounted

/-! ### The head of a draft -/

/-- The first line of the request. -/
def firstLine (d : Draft) : Text := d.method.name ++ ' ' :: (d.target ++ ' ' :: protocolVersion)

theorem firstLine_request (d : Draft) : d.request.firstLine = d.firstLine := by
  rw [request_eq]
  rfl

/-- **A head is lines and an empty line**: the first line, and one for each header. -/
theorem head_eq_unlines (d : Draft) :
    d.head = Text.unlines (d.firstLine :: d.received.headers.entries.map Headers.line) ++
      Headers.lineEnd :=
  d.firstLine_request ▸ d.request.head_eq_unlines

theorem head?_firstLine {d : Draft} {c : Char} (hc : d.method.name.head? = some c) :
    d.firstLine.head? = some c := by
  rw [firstLine, List.head?_append, hc]
  rfl

/-- A head does not begin with a blank. -/
theorem Fits.isBlankLine_head {d : Draft} (hd : d.Fits) : Text.isBlankLine d.head = false := by
  rw [head_eq_unlines, Text.unlines_cons, List.append_assoc, ← firstLine_request]
  exact hd.writable.isBlankLine_firstLine _

theorem Fits.notMem_lines {d : Draft} (hd : d.Fits) :
    ∀ l ∈ d.firstLine :: d.received.headers.entries.map Headers.line, '\n' ∉ l ∧ l ≠ [] :=
  d.firstLine_request ▸ hd.writable.notMem_lines

/-! ### The length of the body -/

/-- The first line does not count a body: it begins with a verb. -/
theorem isContentLength_firstLine {d : Draft} {p : Text × Text}
    (hp : Text.cut ':' d.firstLine = some p) : Headers.isContentLength (Text.trim p.1) = false := by
  obtain ⟨c, hverb⟩ := Method.isPlain_name d.method
  obtain ⟨rest, hname⟩ : ∃ rest, d.method.name = c :: rest := List.head?_eq_some_iff.mp hverb.head
  have hmem : c ∈ d.method.name := hname ▸ List.mem_cons_self
  have hcolon : c ≠ ':' := fun he => hverb.noColon (he ▸ hmem)
  rw [firstLine, hname, List.cons_append, Text.cut_cons hcolon] at hp
  obtain ⟨q, -, rfl⟩ := Option.map_eq_some_iff.mp hp
  rw [Bool.eq_false_iff]
  intro hlength
  have hhead := Text.head?_trim (hverb.solid c hmem) q.1
  exact hverb.notC (Headers.toLower_of_isContentLength hhead hlength)

/-- The lines of the head, and the empty one. -/
theorem Fits.lines_head {d : Draft} (hd : d.Fits) :
    Text.lines d.head = d.firstLine :: d.received.headers.entries.map Headers.line ++ [[]] :=
  d.firstLine_request ▸ hd.writable.lines_head

/-- **The head tells the length of the body.** -/
theorem Fits.contentLength_head {d : Draft} (hd : d.Fits) :
    Control.contentLength d.head = (Utf8.encode d.body).length := by
  have hbody : d.request.body = Utf8.encode d.body := by rw [request_eq]
  have hsmall : (Utf8.encode d.body).length < UInt64.size :=
    Nat.lt_of_le_of_lt hd.body (by decide)
  have hentries : ∀ e ∈ d.request.headers.entries.filter fun e => !Headers.isContentLength e.1,
      Headers.IsName e.1 ∧ Headers.isContentLength e.1 = false := by
    intro e he
    obtain ⟨hmem, hother⟩ := List.mem_filter.mp he
    exact ⟨(hd.plain_entries e hmem).1, by simpa using hother⟩
  have hreceived : d.received.headers.entries =
      (d.request.headers.entries.filter fun e => !Headers.isContentLength e.1) ++
        Headers.counted d.request.body := rfl
  have hfirst : ∀ p, Text.cut ':' d.firstLine = some p →
      Headers.isContentLength (Text.trim p.1) = false := fun p hp => isContentLength_firstLine hp
  have hfind := Headers.find?_cut_lines hfirst hentries d.request.body
  rw [hbody] at hfind
  unfold Control.contentLength
  simp only [hd.lines_head, hreceived, hfind, hbody]
  unfold Headers.counted
  rcases he : (Utf8.encode d.body).isEmpty with _ | _
  · rw [if_neg nofun]
    simp only [List.head?_cons, Option.map_some]
    rw [Headers.trim_value (Headers.isValue_decimal _), Text.numeral?_decimal hsmall]
    rfl
  · -- no line is found, which means a length of zero
    rw [if_pos rfl]
    exact (List.length_eq_zero_iff.mpr (List.isEmpty_iff.mp he)).symm

/-! ### The whole text -/

/-- **The text of a request is read as the request**, with its Content-Length counted anew. -/
theorem Fits.parse_text {d : Draft} (hd : d.Fits) :
    Request.parse (d.head ++ d.body) = .ok d.received :=
  hd.writable.parse_head (by rw [request_eq])

theorem Fits.ofText_text {d : Draft} (hd : d.Fits) :
    Request.ofText (d.head ++ d.body) = d.received := by
  rw [Request.ofText, hd.parse_text]

end Draft

end RtspServer
