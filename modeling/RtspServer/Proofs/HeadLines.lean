/-
RtspServer/Proofs/HeadLines.lean

The head of a request as lines: the request line, one line for each header, and
an empty line (`Request.head_eq_unlines`).  Any request whose parts can stand on
such lines (`Request.Writable`) is read from them as it was, but for the
Content-Length, which is counted anew (`Request.Writable.parse_head`).

What is read is written as it was (`Request.wire_recounted`), since the count
depends on nothing but the body.
-/
import RtspServer.Proofs.Cutting
import Mathlib.Data.List.Find

namespace RtspServer

/-! ### Headers -/

namespace Headers

/-- Can a text be the name of a header?  It has no blank at its ends, no line feed and no colon. -/
def IsName (t : Text) : Prop := Text.trim t = t ∧ '\n' ∉ t ∧ ':' ∉ t

/-- Can a text be the value of a header?  It has no blank at its ends and no line feed. -/
def IsValue (t : Text) : Prop := Text.trim t = t ∧ '\n' ∉ t

instance (t : Text) : Decidable (IsName t) := inferInstanceAs (Decidable (_ ∧ _ ∧ _))

instance (t : Text) : Decidable (IsValue t) := inferInstanceAs (Decidable (_ ∧ _))

/-- Are all names different, up to case? -/
def Distinct (entries : List (Text × Text)) : Prop :=
  entries.Pairwise fun a b => a.1.eqFold b.1 = false

theorem put_cons_of_ne {name : Text} {entry : Text × Text} (hne : entry.1.eqFold name = false)
    (value : Text) (rest : List (Text × Text)) :
    put name value (entry :: rest) = entry :: put name value rest :=
  if_neg (Bool.eq_false_iff.mp hne)

/-- A name that is not there yet is put at the end. -/
theorem put_of_forall {name : Text} {entries : List (Text × Text)}
    (h : ∀ e ∈ entries, e.1.eqFold name = false) (value : Text) :
    put name value entries = entries ++ [(name, value)] := by
  induction entries with
  | nil => rfl
  | cons e rest ih =>
    rw [put_cons_of_ne (h e List.mem_cons_self),
      ih fun f hf => h f (List.mem_cons_of_mem _ hf), List.cons_append]

/-- The names and the values that are there after one has been put were there, or are the new
ones. -/
theorem forall_put {P Q : Text → Prop} {name value : Text} (hn : P name) (hv : Q value)
    {entries : List (Text × Text)} (h : ∀ e ∈ entries, P e.1 ∧ Q e.2) :
    ∀ e ∈ put name value entries, P e.1 ∧ Q e.2 := by
  induction entries with
  | nil =>
    intro e he
    rw [List.mem_singleton.mp he]
    exact ⟨hn, hv⟩
  | cons f rest ih =>
    have hrest : ∀ e ∈ rest, P e.1 ∧ Q e.2 := fun e he => h e (List.mem_cons_of_mem _ he)
    intro e he
    unfold put at he
    split at he
    · rcases List.mem_cons.mp he with rfl | he
      · exact ⟨(h f List.mem_cons_self).1, hv⟩
      · exact hrest e he
    · rcases List.mem_cons.mp he with rfl | he
      · exact h e List.mem_cons_self
      · exact ih hrest e he

/-- Putting a value keeps the names different. -/
theorem Distinct.put {entries : List (Text × Text)} (h : Distinct entries) (name value : Text) :
    Distinct (put name value entries) := by
  induction entries with
  | nil => exact List.pairwise_singleton _ _
  | cons f rest ih =>
    obtain ⟨hf, hrest⟩ := List.pairwise_cons.mp h
    unfold Headers.put
    split
    · exact List.pairwise_cons.mpr ⟨hf, hrest⟩
    · next hne =>
      have hall : ∀ e ∈ Headers.put name value rest, f.1.eqFold e.1 = false ∧ True :=
        forall_put (P := fun t => f.1.eqFold t = false) (Q := fun _ => True)
          (Bool.eq_false_iff.mpr hne) trivial fun e he => ⟨hf e he, trivial⟩
      exact List.pairwise_cons.mpr ⟨fun e he => (hall e he).1, ih hrest⟩

/-- A header as it stands on its line. -/
def line (e : Text × Text) : Text := e.1 ++ ':' :: ' ' :: e.2

/-- The header that counts a body, if there is one. -/
def counted (body : Bytes) : List (Text × Text) :=
  if body.isEmpty then [] else [("Content-Length".toList, Text.decimal body.length)]

theorem notMem_line {e : Text × Text} (hn : '\n' ∉ e.1) (hv : '\n' ∉ e.2) : '\n' ∉ line e := by
  intro h
  rcases List.mem_append.mp h with h | h
  · exact hn h
  · rcases List.mem_cons.mp h with h | h
    · exact absurd h (by decide)
    · rcases List.mem_cons.mp h with h | h
      · exact absurd h (by decide)
      · exact hv h

theorem line_ne_nil (e : Text × Text) : line e ≠ [] := by simp [line]

theorem cut_line {e : Text × Text} (hn : IsName e.1) :
    Text.cut ':' (line e) = some (e.1, ' ' :: e.2) :=
  Text.cut_append hn.2.2 _

theorem filterMap_cut_lines {entries : List (Text × Text)} (h : ∀ e ∈ entries, IsName e.1) :
    (entries.map line).filterMap (Text.cut ':') = entries.map fun e => (e.1, ' ' :: e.2) := by
  induction entries with
  | nil => rfl
  | cons e rest ih =>
    rw [List.map_cons, List.filterMap_cons, cut_line (h e List.mem_cons_self),
      ih fun f hf => h f (List.mem_cons_of_mem _ hf), List.map_cons]

theorem trim_value {t : Text} (hv : IsValue t) : Text.trim (' ' :: t) = t :=
  (Text.trim_cons (by decide) t).trans hv.1

/-- **Headers are read as they are written**, one line each. -/
theorem readHeaders_lines {acc entries : List (Text × Text)}
    (hplain : ∀ e ∈ entries, IsName e.1 ∧ IsValue e.2) (hdistinct : Distinct (acc ++ entries)) :
    Request.readHeaders ⟨acc⟩ (entries.map line) = .ok ⟨acc ++ entries⟩ := by
  induction entries generalizing acc with
  | nil => rw [List.append_nil]; rfl
  | cons e rest ih =>
    obtain ⟨hn, hv⟩ := hplain e List.mem_cons_self
    have hnew : ∀ f ∈ acc, f.1.eqFold e.1 = false := fun f hf =>
      (List.pairwise_append.mp hdistinct).2.2 f hf e List.mem_cons_self
    have hacc : acc ++ e :: rest = (acc ++ [e]) ++ rest := by simp
    rw [List.map_cons, Request.readHeaders, if_neg (by simp [line_ne_nil]), cut_line hn]
    show Request.readHeaders ⟨put (Text.trim e.1) (Text.trim (' ' :: e.2)) acc⟩ _ = _
    rw [hn.1, trim_value hv, put_of_forall hnew, hacc]
    exact ih (fun f hf => hplain f (List.mem_cons_of_mem _ hf)) (hacc ▸ hdistinct)

theorem lineOf_eq : lineOf = fun e => line e ++ lineEnd := by
  funext e
  simp [lineOf, line]

theorem text_eq_unlines (h : Headers) :
    h.text = Text.unlines ((h.entries.filter fun e => !isContentLength e.1).map line) := by
  rw [text, Text.unlines, List.flatMap_map, lineOf_eq]

theorem bodyHead_eq_unlines (body : Bytes) :
    bodyHead body = Text.unlines ((counted body).map line) ++ lineEnd := by
  unfold bodyHead counted
  split <;> simp [Text.unlines, line]

/-- Among the lines of a head, the first that counts a body is the one that was added for it: the
first line does not, and no other header does. -/
theorem find?_cut_lines {first : Text} {entries : List (Text × Text)}
    (hfirst : ∀ p, Text.cut ':' first = some p → isContentLength (Text.trim p.1) = false)
    (hentries : ∀ e ∈ entries, IsName e.1 ∧ isContentLength e.1 = false) (body : Bytes) :
    ((first :: (entries ++ counted body).map line ++ [[]]).filterMap (Text.cut ':')).find?
        (fun p => isContentLength (Text.trim p.1)) =
      (counted body).head?.map fun e => (e.1, ' ' :: e.2) := by
  have hcounted : ∀ e ∈ counted body, e.1 = "Content-Length".toList := by
    unfold counted
    intro e he
    split at he
    · cases he
    · rw [List.mem_singleton.mp he]
  have hnames : ∀ e ∈ entries ++ counted body, IsName e.1 := by
    intro e he
    rcases List.mem_append.mp he with he | he
    · exact (hentries e he).1
    · rw [hcounted e he]
      decide
  have hnone :
      (Text.cut ':' first).toList.find? (fun p => isContentLength (Text.trim p.1)) = none :=
    List.find?_eq_none.mpr fun p hp => by simp [hfirst p (Option.mem_toList.mp hp)]
  have hbefore : (entries.map fun e => (e.1, ' ' :: e.2)).find?
      (fun p => isContentLength (Text.trim p.1)) = none := by
    refine List.find?_eq_none.mpr fun p hp => ?_
    obtain ⟨e, he, rfl⟩ := List.mem_map.mp hp
    obtain ⟨hname, hother⟩ := hentries e he
    simp only [hname.1, hother, Bool.false_eq_true, not_false_eq_true]
  have hlines : (first :: (entries ++ counted body).map line ++ [[]]).filterMap (Text.cut ':') =
      (Text.cut ':' first).toList ++ ((entries.map fun e => (e.1, ' ' :: e.2)) ++
        (counted body).map fun e => (e.1, ' ' :: e.2)) := by
    have hempty : List.filterMap (Text.cut ':') [[]] = [] := rfl
    rw [List.filterMap_append, hempty, List.append_nil, List.filterMap_cons,
      filterMap_cut_lines hnames, List.map_append]
    rcases Text.cut ':' first with - | p <;> rfl
  rw [hlines, List.find?_append, List.find?_append, hnone, hbefore, Option.none_or, Option.none_or]
  -- one line at most has been added
  have hname : isContentLength (Text.trim "Content-Length".toList) = true := by decide
  unfold counted
  split
  · rfl
  · exact List.find?_cons_of_pos hname

/-- Whatever counts a body begins with a C. -/
theorem toLower_of_isContentLength {c : Char} {t : Text} (hc : t.head? = some c)
    (h : isContentLength t = true) : c.toLower = 'c' := by
  rcases t with - | ⟨d, s⟩
  · cases hc
  · obtain rfl := Option.some.inj hc
    unfold isContentLength at h
    rw [show "Content-Length".toList = 'C' :: "ontent-Length".toList from rfl, Text.eqFold,
      Bool.and_eq_true, beq_iff_eq] at h
    exact h.1

theorem isValue_decimal (n : Nat) : IsValue (Text.decimal n) := by
  have hdigit : ∀ c ∈ Text.decimal n, c.isDigit = true :=
    fun c hc => Text.isDigit_of_mem_decimal hc
  refine ⟨Text.trim_of_forall fun c hc => Text.isBlank_of_isDigit (hdigit c hc), ?_⟩
  exact fun h => absurd (hdigit _ h) (by decide)

theorem plain_counted (body : Bytes) :
    ∀ e ∈ counted body, IsName e.1 ∧ IsValue e.2 := by
  have hname : IsName "Content-Length".toList := by decide
  unfold counted
  intro e he
  split at he
  · cases he
  · rw [List.mem_singleton.mp he]
    exact ⟨hname, isValue_decimal _⟩

/-- The header that counts a body counts it. -/
theorem isContentLength_counted {body : Bytes} {e : Text × Text} (he : e ∈ counted body) :
    isContentLength e.1 = true := by
  unfold counted at he
  split at he
  · cases he
  · rw [List.mem_singleton.mp he]
    exact Text.eqFold_self _

/-- The name that counts the body is new once every other spelling of it has been left out. -/
theorem Distinct.counted {entries : List (Text × Text)} (h : Distinct entries) (body : Bytes) :
    Distinct ((entries.filter fun e => !isContentLength e.1) ++ Headers.counted body) := by
  refine List.pairwise_append.mpr ⟨h.sublist List.filter_sublist, ?_, ?_⟩
  · unfold Headers.counted
    split
    · exact .nil
    · exact List.pairwise_singleton _ _
  · intro e he f hf
    unfold Headers.counted at hf
    split at hf
    · cases hf
    · rw [List.mem_singleton.mp hf]
      simpa [isContentLength] using (List.mem_filter.mp he).2

end Headers

/-! ### Lines of a head -/

/-- A text with a first line that is not blank is read line by line. -/
theorem Request.parse_eq {raw head body first : Text} {rest : List Text}
    (hsplit : splitHead raw = (head, body)) (hlines : Text.lines head = first :: rest)
    (hfirst : Text.isBlankLine first = false) :
    parse raw = (ofLines first rest).map (·.withBody (Utf8.encode body)) := by
  unfold parse
  simp only [hsplit, hlines, hfirst, Bool.false_eq_true, if_false]

/-- The request that lines stand for, the first of which is its request line. -/
def Request.ofHead : List Text → Except Fault Request
  | [] => .error (.malformed .emptyRequest)
  | first :: rest => ofLines first rest

/-- What is parsed: a first line that is not blank, the lines below it up to where the head is cut,
and what stands behind. -/
theorem Request.exists_of_parse {raw front after : Text} {r : Request}
    (hs : splitHead raw = (front, after)) (h : parse raw = .ok r) :
    ∃ first rest, Text.lines front = first :: rest ∧ Text.isBlankLine first = false ∧
      ofLines first rest = .ok { r with body := [] } ∧ r.body = Utf8.encode after := by
  simp only [parse, hs] at h
  split at h
  · cases h
  next first rest hlines =>
  split at h
  · cases h
  next hfirst =>
  refine ⟨first, rest, hlines, Bool.eq_false_iff.mpr hfirst, ?_⟩
  simp only [ofLines] at h ⊢
  rcases hread : readHeaders Headers.empty rest with fault | headers
  · simp [hread, bind, Except.bind, Except.map] at h
  · simp only [hread, bind, Except.bind, pure, Except.pure, Except.map, Except.ok.injEq] at h ⊢
    subst h
    exact ⟨rfl, rfl⟩

theorem Request.of_parse {raw front after : Text} {r : Request}
    (hs : splitHead raw = (front, after)) (h : parse raw = .ok r) :
    ofHead (Text.lines front) = .ok { r with body := [] } ∧ r.body = Utf8.encode after := by
  obtain ⟨first, rest, hlines, -, hofLines, hbody⟩ := exists_of_parse hs h
  rw [hlines]
  exact ⟨hofLines, hbody⟩

/-- What the first line and the header lines stand for, part by part. -/
theorem Request.of_ofLines {first : Text} {rest : List Text} {r : Request}
    (h : ofLines first rest = .ok r) :
    readHeaders Headers.empty rest = .ok r.headers ∧
      r.verb = (Text.words first).getD 0 [] ∧ r.method = Method.ofVerb r.verb ∧
      r.target = (Text.words first).getD 1 ['*'] ∧
      r.version = (Text.words first).getD 2 protocolVersion := by
  unfold ofLines at h
  rcases hread : readHeaders Headers.empty rest with fault | headers
  · simp [hread, bind, Except.bind] at h
  · simp only [hread, bind, Except.bind, pure, Except.pure, Except.ok.injEq] at h
    subst h
    exact ⟨rfl, rfl, rfl, rfl, rfl⟩

/-- What each header line keeps holds of the headers that are read. -/
theorem Request.readHeaders_induct {P : Headers → Prop} {ls : List Text}
    (hinsert : ∀ l ∈ ls, ∀ name value, Text.cut ':' l = some (name, value) →
      ∀ {h : Headers}, P h → P (h.insert (Text.trim name) (Text.trim value)))
    {headers read : Headers} (hheaders : P headers)
    (hread : readHeaders headers ls = .ok read) : P read := by
  induction ls generalizing headers with
  | nil => exact Except.ok.inj hread ▸ hheaders
  | cons l rest ih =>
    unfold readHeaders at hread
    split at hread
    · exact Except.ok.inj hread ▸ hheaders
    · split at hread
      · next name value hcut =>
        exact ih (fun m hm => hinsert m (List.mem_cons_of_mem _ hm))
          (hinsert l List.mem_cons_self name value hcut hheaders) hread
      · cases hread

/-- A word: not empty, and without blanks. -/
structure Text.IsWord (w : Text) : Prop where
  ne_nil : w ≠ []
  solid : ∀ c ∈ w, isBlank c = false

instance (w : Text) : Decidable w.IsWord :=
  decidable_of_iff (w ≠ [] ∧ w.all fun c => !isBlank c)
    ⟨fun h => ⟨h.1, by simpa using h.2⟩, fun h => ⟨h.ne_nil, by simpa using h.solid⟩⟩

theorem Text.IsWord.notMem_feed {w : Text} (hw : w.IsWord) : '\n' ∉ w := fun h =>
  absurd (hw.solid _ h) (by decide)

namespace Request

/-- A request as it is received once it has been written: whatever counted its body has made room
for the header that counts it now. -/
def recounted (r : Request) : Request :=
  { r with headers :=
      ⟨(r.headers.entries.filter fun e => !Headers.isContentLength e.1) ++
        Headers.counted r.body⟩ }

/-- The head of a request, its empty line included. -/
def head (r : Request) : Text := r.requestLine ++ r.headers.text ++ Headers.bodyHead r.body

/-- The request line without its line end. -/
def firstLine (r : Request) : Text := r.verb ++ ' ' :: (r.target ++ ' ' :: r.version)

/-- Can the parts of a request stand in a head?  Then the request line holds three words, and the
headers have different names that can stand in front of a colon. -/
structure Writable (r : Request) : Prop where
  verb : r.verb.IsWord
  target : r.target.IsWord
  version : r.version.IsWord
  method : r.method = Method.ofVerb r.verb
  headers : ∀ e ∈ r.headers.entries, Headers.IsName e.1 ∧ Headers.IsValue e.2
  distinct : Headers.Distinct r.headers.entries

theorem wire_eq (r : Request) : r.wire = Utf8.encode r.head ++ r.body := rfl

/-! ### Counting the body anew -/

/-- **What is received is written as it was.** -/
theorem wire_recounted (r : Request) : r.recounted.wire = r.wire := by
  have hnone : (Headers.counted r.body).filter (fun e => !Headers.isContentLength e.1) = [] :=
    List.filter_eq_nil_iff.mpr fun e he => by simp [Headers.isContentLength_counted he]
  have htext : r.recounted.headers.text = r.headers.text := by
    unfold Headers.text
    show List.flatMap _ (List.filter _ (List.filter _ _ ++ _)) = _
    rw [List.filter_append, hnone, List.append_nil, List.filter_filter]
    simp only [Bool.and_self]
  rw [wire_eq, wire_eq, head, htext]
  rfl

theorem Writable.recounted {r : Request} (hr : r.Writable) : r.recounted.Writable where
  verb := hr.verb
  target := hr.target
  version := hr.version
  method := hr.method
  headers := by
    intro e he
    rcases List.mem_append.mp he with he | he
    · exact hr.headers e (List.mem_filter.mp he).1
    · exact Headers.plain_counted _ e he
  distinct := hr.distinct.counted r.body

/-- Counting the body anew touches no other header. -/
theorem get?_recounted (r : Request) {name : Text} (hname : Headers.isContentLength name = false) :
    r.recounted.headers.get? name = r.headers.get? name := by
  have hother : ∀ e : Text × Text, e.1.eqFold name = true →
      Headers.isContentLength e.1 = false := by
    intro e he
    rw [Bool.eq_false_iff]
    intro hlength
    have : Headers.isContentLength name = true :=
      Text.eqFold_trans (Text.eqFold_comm e.1 name ▸ he) hlength
    rw [hname] at this
    cases this
  have hcounted : (Headers.counted r.body).find? (fun e => e.1.eqFold name) = none := by
    refine List.find?_eq_none.mpr fun e he hfold => ?_
    exact absurd ((Headers.isContentLength_counted he).symm.trans (hother e hfold)) (by decide)
  have hfilter : (r.headers.entries.filter fun e => !Headers.isContentLength e.1).find?
      (fun e => e.1.eqFold name) = r.headers.entries.find? fun e => e.1.eqFold name := by
    rw [List.find?_filter]
    refine List.find?_congr fun e _ => ?_
    rcases he : e.1.eqFold name with _ | _
    · simp
    · simp [hother e he]
  unfold Headers.get?
  show Option.map _ (List.find? _ (_ ++ _)) = _
  rw [List.find?_append, hcounted, Option.or_none, hfilter]

/-- The transports that a request offers are received as they were written. -/
theorem offers?_recounted (r : Request) : r.recounted.offers? = r.offers? := by
  have hname : Headers.isContentLength "Transport".toList = false := by decide
  have htransport := r.get?_recounted hname
  unfold offers? header?
  rw [htransport]
  rfl

/-! ### The head as lines -/

/-- **A head is lines and an empty line**: the first line, and one for each header. -/
theorem head_eq_unlines (r : Request) :
    r.head = Text.unlines (r.firstLine :: r.recounted.headers.entries.map Headers.line) ++
      Headers.lineEnd := by
  have hfirst : r.requestLine = Text.unlines [r.firstLine] := by
    simp [requestLine, Text.unlines, firstLine]
  rw [head, hfirst, Headers.text_eq_unlines, Headers.bodyHead_eq_unlines]
  show _ = Text.unlines ([r.firstLine] ++ (_ ++ _ : List (Text × Text)).map Headers.line) ++ _
  rw [List.map_append, Text.unlines_append, Text.unlines_append]
  simp only [List.append_assoc]

namespace Writable

variable {r : Request} (hr : r.Writable)

include hr

/-- The first line begins with a character that is no blank. -/
theorem isBlankLine_firstLine (t : Text) : Text.isBlankLine (r.firstLine ++ t) = false := by
  obtain ⟨c, verb, hverb⟩ := List.exists_cons_of_ne_nil hr.verb.ne_nil
  have hsolid : isBlank c = false := hr.verb.solid c (hverb ▸ List.mem_cons_self)
  simp [firstLine, hverb, Text.isBlankLine, hsolid]

theorem words_firstLine : Text.words r.firstLine = [r.verb, r.target, r.version] := by
  rw [firstLine, Text.words_append_cons hr.verb.solid hr.verb.ne_nil,
    Text.words_append_cons hr.target.solid hr.target.ne_nil,
    Text.words_of_forall hr.version.solid hr.version.ne_nil]

theorem notMem_firstLine : '\n' ∉ r.firstLine := by
  intro h
  rcases List.mem_append.mp h with h | h
  · exact hr.verb.notMem_feed h
  · rcases List.mem_cons.mp h with h | h
    · exact absurd h (by decide)
    · rcases List.mem_append.mp h with h | h
      · exact hr.target.notMem_feed h
      · rcases List.mem_cons.mp h with h | h
        · exact absurd h (by decide)
        · exact hr.version.notMem_feed h

theorem firstLine_ne_nil : r.firstLine ≠ [] := by
  intro hnil
  exact hr.verb.ne_nil (List.append_eq_nil_iff.mp hnil).1

theorem notMem_lines :
    ∀ l ∈ r.firstLine :: r.recounted.headers.entries.map Headers.line, '\n' ∉ l ∧ l ≠ [] := by
  intro l hl
  rcases List.mem_cons.mp hl with rfl | hl
  · exact ⟨hr.notMem_firstLine, hr.firstLine_ne_nil⟩
  · obtain ⟨e, he, rfl⟩ := List.mem_map.mp hl
    obtain ⟨hn, hv⟩ := hr.recounted.headers e he
    exact ⟨Headers.notMem_line hn.2.1 hv.2, Headers.line_ne_nil e⟩

/-- The lines of the head, and the empty one. -/
theorem lines_head :
    Text.lines r.head = r.firstLine :: r.recounted.headers.entries.map Headers.line ++ [[]] := by
  have hend : Headers.lineEnd = Text.unlines [[]] := rfl
  rw [r.head_eq_unlines, hend, ← Text.unlines_append]
  refine Text.lines_unlines fun l hl => ?_
  rcases List.mem_append.mp hl with hl | hl
  · exact (hr.notMem_lines l hl).1
  · rw [List.mem_singleton.mp hl]
    exact List.not_mem_nil

/-- The first line and the header lines are read as the request they were made from. -/
theorem ofLines_head :
    ofLines r.firstLine (r.recounted.headers.entries.map Headers.line) =
      .ok { r.recounted with body := [] } := by
  -- nothing is there when the first header is read, so distinct names are all put at the end
  have hheaders : readHeaders ⟨[]⟩ (r.recounted.headers.entries.map Headers.line) =
      .ok r.recounted.headers :=
    Headers.readHeaders_lines hr.recounted.headers hr.recounted.distinct
  unfold ofLines
  rw [Headers.empty, hheaders]
  show Except.ok _ = _
  rw [hr.words_firstLine]
  show Except.ok
    ({ method := Method.ofVerb r.verb, verb := r.verb, target := r.target, version := r.version,
       headers := r.recounted.headers } : Request) = _
  rw [← hr.method]
  rfl

/-- **A head is told from its body and read as the request**, with its Content-Length counted
anew. -/
theorem parse_head {body : Text} (hbody : r.body = Utf8.encode body) :
    parse (r.head ++ body) = .ok r.recounted := by
  have hlines := hr.notMem_lines
  have hfirst : Text.isBlankLine r.firstLine = false := by
    simpa using hr.isBlankLine_firstLine []
  have hofLines := hr.ofLines_head
  rw [r.head_eq_unlines]
  -- the rest of the proof knows nothing of the lines but that they are lines
  generalize r.recounted.headers.entries.map Headers.line = headerLines at *
  -- the last line is the one before the empty line
  obtain ⟨init, last, hinit⟩ : ∃ init last, r.firstLine :: headerLines = init ++ [last] :=
    ⟨_, _, (List.dropLast_concat_getLast (List.cons_ne_nil _ _)).symm⟩
  rw [hinit] at hlines ⊢
  obtain ⟨hlast, hne⟩ := hlines last (List.mem_append_right _ List.mem_cons_self)
  have hsplit : splitHead (Text.unlines (init ++ [last]) ++ Headers.lineEnd ++ body) =
      (Text.unlines init ++ last, body) := by
    rw [List.append_assoc]
    unfold splitHead
    rw [show ['\r', '\n', '\r', '\n'] = Text.emptyLine from rfl, Text.cutAt_emptyLine hlines]
  have hhead : Text.lines (Text.unlines init ++ last) = r.firstLine :: headerLines := by
    rw [Text.lines_unlines_append fun l hl => (hlines l (List.mem_append_left _ hl)).1,
      Text.lines_of_notMem hlast hne, hinit]
  rw [parse_eq hsplit hhead hfirst, hofLines]
  show Except.ok ({ r.recounted with body := Utf8.encode body } : Request) = _
  rw [← hbody]
  rfl

end Writable

end Request

end RtspServer
