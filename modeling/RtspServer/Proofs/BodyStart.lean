/-
RtspServer/Proofs/BodyStart.lean

Where the body of a request begins.  The end of a head is looked for twice: line
by line when a message is taken off a stream, and as CR LF CR LF, else as LF LF,
when its text is parsed.

The lines of the head are read alike in any case (`IsHead.parse_append`).  The
body is what was taken off only if the end of the head shows to the parser
(`Request.EndShows`).  A head that ends with LF LF is cut inside of its body if
CR LF CR LF is there, and a head that ends with LF CR LF is not cut at its end at
all.
-/
import RtspServer.Proofs.Cutting
import RtspServer.Proofs.HeadEnd
import Mathlib.Control.Monad.Basic

namespace RtspServer

namespace Request

/-! ### Lines of a head -/

/-- Header lines that are read alike are read alike behind others. -/
theorem readHeaders_congr {ms ms' : List Text}
    (h : ∀ headers, readHeaders headers ms = readHeaders headers ms') (headers : Headers)
    (ls : List Text) : readHeaders headers (ls ++ ms) = readHeaders headers (ls ++ ms') := by
  induction ls generalizing headers with
  | nil => exact h headers
  | cons l ls ih => simp only [List.cons_append, readHeaders, ih]

/-- What stands behind an empty line is no header. -/
theorem readHeaders_append_nil (headers : Headers) (ls more : List Text) :
    readHeaders headers (ls ++ [] :: more) = readHeaders headers ls := by
  have halike : ∀ headers, readHeaders headers ([] :: more) = readHeaders headers [] := fun _ => rfl
  rw [readHeaders_congr halike, List.append_nil]

/-- A carriage return at the end of a header line is trimmed. -/
theorem readHeaders_dropReturn {l : Text} (hl : l ≠ ['\r']) (headers : Headers)
    (ls : List Text) :
    readHeaders headers (ls ++ [Text.dropReturn l]) = readHeaders headers (ls ++ [l]) := by
  refine readHeaders_congr (fun headers => ?_) headers ls
  rcases Text.dropReturn_cases l with hsame | hreturn
  · rw [hsame]
  · generalize Text.dropReturn l = m at hreturn
    subst hreturn
    have hm : m ≠ [] := by
      rintro rfl
      exact hl rfl
    have hvalue := fun value => Text.trim_append (show isBlank '\r' = true by decide) value
    have hcut : Text.cut ':' (m ++ ['\r']) = _ := Text.cut_append_of_notMem (by decide) m
    simp only [readHeaders, hcut, List.isEmpty_iff, hm, List.append_eq_nil_iff, false_and]
    rcases Text.cut ':' m with - | ⟨name, value⟩
    · rfl
    · simp only [Option.map_some, hvalue]

/-- A line without a colon is refused. -/
theorem readHeaders_append_of_cut {headers read : Headers} {ls : List Text} {l : Text}
    (hl : Text.cut ':' l = none) (hne : l ≠ [])
    (h : readHeaders headers (ls ++ [l]) = .ok read) : readHeaders headers ls = .ok read := by
  induction ls generalizing headers with
  | nil =>
    have hne' : l.isEmpty = false := by simpa using hne
    simp [readHeaders, hl, hne'] at h
  | cons m ls ih =>
    simp only [List.cons_append, readHeaders] at h ⊢
    split
    · next hm => rwa [if_pos hm] at h
    · next hm =>
      rw [if_neg hm] at h
      split at h
      · exact ih h
      · cases h

theorem ofHead_append_nil {ls : List Text} (hls : ls ≠ []) (more : List Text) :
    ofHead (ls ++ [] :: more) = ofHead ls := by
  rcases ls with - | ⟨first, rest⟩
  · exact absurd rfl hls
  · simp only [List.cons_append, ofHead, ofLines, readHeaders_append_nil]

theorem ofHead_dropReturn {l : Text} (hl : l ≠ ['\r']) (ls : List Text) :
    ofHead (ls ++ [Text.dropReturn l]) = ofHead (ls ++ [l]) := by
  rcases ls with - | ⟨first, rest⟩
  · have hwords : Text.words (Text.dropReturn l) = Text.words l := by
      rcases Text.dropReturn_cases l with hsame | hreturn
      · rw [hsame]
      · conv_rhs => rw [hreturn]
        exact (Text.words_append (by decide) _).symm
    simp only [List.nil_append, ofHead, ofLines, hwords]
  · simp only [List.cons_append, ofHead, ofLines, readHeaders_dropReturn hl]

theorem ofHead_append_of_cut {ls : List Text} (hls : ls ≠ []) {l : Text}
    (hl : Text.cut ':' l = none) (hne : l ≠ []) {r : Request} (h : ofHead (ls ++ [l]) = .ok r) :
    ofHead ls = .ok r := by
  rcases ls with - | ⟨first, rest⟩
  · exact absurd rfl hls
  · simp only [List.cons_append, ofHead, ofLines] at h ⊢
    rcases hread : readHeaders Headers.empty (rest ++ [l]) with fault | headers
    · rw [hread] at h
      cases h
    · rw [hread] at h
      rw [readHeaders_append_of_cut hl hne hread]
      exact h

/-! ### Where the parser cuts -/

/-- The parser sees the end of this head in front of this body: the head ends with CR LF CR LF, or
with LF LF while the body does not hold CR LF CR LF. -/
def EndShows (head body : Text) : Prop :=
  Text.emptyLine <:+ head ∨ ['\n', '\n'] <:+ head ∧ ¬Text.emptyLine <:+: body

instance (head body : Text) : Decidable (EndShows head body) :=
  inferInstanceAs (Decidable (_ ∨ _ ∧ _))

end Request

namespace IsHead

variable {head body : Text}

/-- Two line ends in a row occur in a head at its end only. -/
theorem feeds_last (hhead : IsHead head) {before after : Text}
    (h : head = before ++ (['\n', '\n'] ++ after)) : after = [] :=
  hhead.first (.inl rfl) h

theorem emptyLine_last (hhead : IsHead head) {before after : Text}
    (h : head = before ++ (Text.emptyLine ++ after)) : after = [] := by
  have hlines : head = (before ++ ['\r']) ++ '\n' :: (['\r', '\n'] ++ after) := by
    rw [h]
    simp [Text.emptyLine]
  exact hhead.first (.inr rfl) hlines

theorem getLast?_eq (hhead : IsHead head) : head.getLast? = some '\n' := by
  obtain ⟨lines, empty, hempty, rfl⟩ := hhead.ended
  rcases hempty with rfl | rfl <;> simp

/-- A text that begins at the end of a head begins with a line feed there. -/
theorem getLast?_of_append (hhead : IsHead head) {before p : Text} (hp : p ≠ [])
    (h : head = before ++ p) : p.getLast? = some '\n' := by
  rw [← List.getLast?_append_of_ne_nil before hp, ← h]
  exact hhead.getLast?_eq

/-- Of CR LF CR LF only CR LF can stand at the end of a head and CR LF behind it. -/
theorem eq_of_emptyLine {p q : Text} (h : p ++ q = Text.emptyLine) (hp : p.getLast? = some '\n')
    (hq : q ≠ []) : p = ['\r', '\n'] := by
  rcases p with - | ⟨a, - | ⟨b, - | ⟨c, - | ⟨d, p⟩⟩⟩⟩ <;> simp_all [Text.emptyLine]

theorem eq_of_feeds {p q : Text} (h : p ++ q = ['\n', '\n']) (hp : p ≠ []) (hq : q ≠ []) :
    p = ['\n'] := by
  rcases p with - | ⟨a, - | ⟨b, p⟩⟩ <;> simp_all

/-- CR LF CR LF begins at the end of a head only if its empty line has a carriage return. -/
theorem emptyLine_begins (hhead : IsHead head) {p q before : Text} (h : Text.emptyLine = p ++ q)
    (hp : p ≠ []) (hq : q ≠ []) (hbefore : head = before ++ p) :
    ∃ lines, head = lines ++ ['\n', '\r', '\n'] ∧ before = lines ++ ['\n'] := by
  obtain rfl := eq_of_emptyLine h.symm (hhead.getLast?_of_append hp hbefore) hq
  obtain ⟨lines, empty, hempty, hlines⟩ := hhead.ended
  rw [hlines] at hbefore
  rcases hempty with rfl | rfl
  · -- the same text would end with LF LF and with CR LF
    have hends : (lines ++ ['\n']) ++ ['\n'] = (before ++ ['\r']) ++ ['\n'] := by
      simpa using hbefore
    exact absurd (List.append_inj_right' (List.append_cancel_right hends) rfl) (by decide)
  · have hends : (lines ++ ['\n']) ++ ['\r', '\n'] = before ++ ['\r', '\n'] := by
      simpa using hbefore
    exact ⟨lines, hlines, (List.append_cancel_right hends).symm⟩

/-- **An end that shows is where the parser cuts.** -/
theorem splitHead_of_endShows (hhead : IsHead head) (h : Request.EndShows head body) :
    ∃ front blank, (blank = Text.emptyLine ∨ blank = ['\n', '\n']) ∧ head = front ++ blank ∧
      Request.splitHead (head ++ body) = (front, body) := by
  unfold Request.splitHead
  rw [show ['\r', '\n', '\r', '\n'] = Text.emptyLine from rfl]
  by_cases hreturn : Text.emptyLine <:+ head
  · obtain ⟨front, hfront⟩ := hreturn
    refine ⟨front, _, .inl rfl, hfront.symm, ?_⟩
    rw [Text.cutAt_append_of_eq (by decide) hhead.emptyLine_last hfront.symm]
  · obtain ⟨⟨front, hfront⟩, hbody⟩ := h.resolve_left hreturn
    refine ⟨front, _, .inr rfl, hfront.symm, ?_⟩
    -- CR LF CR LF is neither in the body nor across the end of the head
    have hnone : Text.cutAt Text.emptyLine (head ++ body) = none := by
      rcases hcut : Text.cutAt Text.emptyLine (head ++ body) with - | ⟨before, after⟩
      · rfl
      rcases Text.of_cutAt_append (by decide) hhead.emptyLine_last hreturn hcut with
        ⟨u, -, hu⟩ | ⟨p, q, hpq, hp, hq, hbefore, -⟩
      · exact absurd ⟨u, after, by rw [hu, List.append_assoc]⟩ hbody
      · obtain ⟨lines, hlines, -⟩ := hhead.emptyLine_begins hpq hp hq hbefore
        have hends : front ++ ['\n', '\n'] = (lines ++ ['\n']) ++ ['\r', '\n'] := by
          simpa [hfront] using hlines
        exact absurd (List.append_inj_right' hends rfl) (by decide)
    rw [hnone, Text.cutAt_append_of_eq (by decide) hhead.feeds_last hfront.symm]
    rfl

/-- **An end that does not show is cut elsewhere**: the parser takes some of the body for the head,
if there is any, or leaves a part of the empty line to the head. -/
theorem splitHead_of_not_endShows (hhead : IsHead head) (h : ¬Request.EndShows head body)
    {front after : Text} (hs : Request.splitHead (head ++ body) = (front, after)) :
    (∃ taken, body = taken ++ after ∧ (taken = [] → body = [])) ∧
      ((∃ u, front = head ++ u) ∨
        ∃ lines, head = lines ++ ['\n', '\r', '\n'] ∧
          (front = lines ++ ['\n'] ∨ front = lines ++ ['\n', '\r'])) := by
  obtain ⟨hreturn, hfeeds⟩ := not_or.mp h
  unfold Request.splitHead at hs
  rw [show ['\r', '\n', '\r', '\n'] = Text.emptyLine from rfl] at hs
  rcases hcut : Text.cutAt Text.emptyLine (head ++ body) with - | parts <;> rw [hcut] at hs
  · -- without CR LF CR LF, the head does not end with LF LF either
    have hfeeds' : ¬['\n', '\n'] <:+ head := fun hsuffix => hfeeds ⟨hsuffix, fun hbody =>
      Text.cutAt_ne_none (by decide) (hbody.trans (List.suffix_append _ _).isInfix) hcut⟩
    rcases hcut' : Text.cutAt ['\n', '\n'] (head ++ body) with - | parts <;> rw [hcut'] at hs
    · obtain ⟨rfl, rfl⟩ := Prod.mk.inj hs
      exact ⟨⟨body, (List.append_nil _).symm, id⟩, .inl ⟨body, rfl⟩⟩
    · obtain rfl : parts = (front, after) := hs
      rcases Text.of_cutAt_append (by decide) hhead.feeds_last hfeeds' hcut' with
        ⟨u, hfront, hbody⟩ | ⟨p, q, hpq, hp, hq, hfront, hbody⟩
      · exact ⟨⟨u ++ ['\n', '\n'], by simpa using hbody, by simp⟩, .inl ⟨u, hfront⟩⟩
      · refine ⟨⟨q, hbody, fun he => absurd he hq⟩, .inr ?_⟩
        obtain rfl := eq_of_feeds hpq.symm hp hq
        obtain ⟨lines, empty, hempty, hlines⟩ := hhead.ended
        rcases hempty with rfl | rfl
        · exact absurd ⟨lines, hlines.symm⟩ hfeeds'
        · have hends : front ++ ['\n'] = (lines ++ ['\n', '\r']) ++ ['\n'] := by
            rw [← hfront, hlines, List.append_assoc]
            rfl
          exact ⟨lines, hlines, .inr (List.append_cancel_right hends)⟩
  · obtain rfl : parts = (front, after) := hs
    rcases Text.of_cutAt_append (by decide) hhead.emptyLine_last hreturn hcut with
      ⟨u, hfront, hbody⟩ | ⟨p, q, hpq, hp, hq, hfront, hbody⟩
    · have hsome : u ++ Text.emptyLine ≠ [] := by simp [Text.emptyLine]
      exact ⟨⟨_, by simpa using hbody, fun he => absurd he hsome⟩, .inl ⟨u, hfront⟩⟩
    · obtain ⟨lines, hlines, hfront'⟩ := hhead.emptyLine_begins hpq hp hq hfront
      exact ⟨⟨q, hbody, fun he => absurd he hq⟩, .inr ⟨lines, hlines, .inl hfront'⟩⟩

/-! ### The lines of the head -/

/-- The lines of a head: some, and the empty one. -/
theorem lines_eq (lines : Text) {empty : Text} (hempty : empty.IsEmptyLine) (more : Text) :
    Text.lines (lines ++ '\n' :: (empty ++ more)) =
      (Text.splitOn '\n' lines).map Text.dropReturn ++ [] :: Text.lines more := by
  have hrest : Text.lines (empty ++ more) = [] :: Text.lines more := by
    rcases hempty with rfl | rfl
    · exact Text.lines_append [] more
    · exact Text.lines_append ['\r'] more
  rw [Text.lines_append, hrest]

theorem lines_ne_nil (lines : Text) : (Text.splitOn '\n' lines).map Text.dropReturn ≠ [] :=
  mt List.map_eq_nil_iff.mp (Text.splitBy_ne_nil _ lines)

/-- What follows a head does not change its lines. -/
theorem ofHead_append (hhead : IsHead head) (more : Text) :
    Request.ofHead (Text.lines (head ++ more)) = Request.ofHead (Text.lines head) := by
  obtain ⟨lines, empty, hempty, rfl⟩ := hhead.ended
  have hmore := lines_eq lines hempty more
  have hnone := lines_eq lines hempty []
  rw [List.append_nil] at hnone
  rw [List.append_assoc, List.cons_append, hmore, hnone,
    Request.ofHead_append_nil (lines_ne_nil lines), Request.ofHead_append_nil (lines_ne_nil lines)]

/-- No line of a head but the last is empty. -/
theorem ne_append (hhead : IsHead head) {whole empty : Text} (hempty : empty.IsEmptyLine)
    (more : Text) (hwhole : whole = [] ∨ ∃ s, whole = s ++ ['\n']) (hmore : more ≠ [])
    (hblank : Text.isBlankLine more = true) : head ≠ whole ++ (empty ++ more) := by
  intro h
  rcases hwhole with rfl | ⟨s, rfl⟩
  · have hall : Text.isBlankLine (empty ++ more) = true := by
      rw [Text.isBlankLine, List.all_append, Bool.and_eq_true]
      exact ⟨by rcases hempty with rfl | rfl <;> decide, hblank⟩
    have hne := hhead.ne_blank
    rw [h, List.nil_append, hall] at hne
    cases hne
  · have hs : head = s ++ '\n' :: (empty ++ more) := by simpa using h
    exact hmore (hhead.first hempty hs)

/-- Without its empty line a head is the same lines. -/
theorem ofHead_front (hhead : IsHead head) {front blank : Text}
    (hblank : blank = Text.emptyLine ∨ blank = ['\n', '\n']) (hfront : head = front ++ blank) :
    Request.ofHead (Text.lines front) = Request.ofHead (Text.lines head) := by
  obtain ⟨whole, init, last, rfl, hwhole, hsplit⟩ := Text.exists_last_piece front
  have hfront' : Text.splitOn '\n' (whole ++ last) = init ++ [last] := by
    simpa using hsplit [] List.not_mem_nil
  have hne : last ≠ [] := by
    rintro rfl
    rcases hblank with rfl | rfl
    · exact hhead.ne_append (.inr rfl) ['\r', '\n'] hwhole (List.cons_ne_nil _ _) (by decide)
        (by simpa [Text.emptyLine] using hfront)
    · exact hhead.ne_append (.inl rfl) ['\n'] hwhole (List.cons_ne_nil _ _) (by decide)
        (by simpa using hfront)
  have hlines : Text.lines (whole ++ last) = init.map Text.dropReturn ++ [last] := by
    simp [Text.lines, hfront', hne]
  rcases hblank with rfl | rfl
  · have hhead' : Text.lines head = (init.map Text.dropReturn ++ [last]) ++ [[]] := by
      have hend : Text.IsEmptyLine ['\r', '\n'] := .inr rfl
      have := lines_eq (whole ++ last ++ ['\r']) hend []
      rw [hsplit ['\r'] (by decide)] at this
      simpa [hfront, Text.emptyLine, Text.dropReturn_append, Text.lines_nil] using this
    rw [hhead', hlines, Request.ofHead_append_nil (by simp)]
  · have hreturn : last ≠ ['\r'] := by
      rintro rfl
      exact hhead.ne_append (.inr rfl) ['\n'] hwhole (List.cons_ne_nil _ _) (by decide)
        (by simpa using hfront)
    have hhead' : Text.lines head =
        (init.map Text.dropReturn ++ [Text.dropReturn last]) ++ [[]] := by
      have hend : Text.IsEmptyLine ['\n'] := .inl rfl
      have := lines_eq (whole ++ last) hend []
      rw [hfront'] at this
      simpa [hfront, Text.lines_nil] using this
    rw [hhead', hlines, Request.ofHead_append_nil (by simp), Request.ofHead_dropReturn hreturn]

/-- What is left of an empty line is no header. -/
theorem ofHead_left {lines front : Text}
    (hfront : front = lines ++ ['\n'] ∨ front = lines ++ ['\n', '\r']) {r : Request}
    (h : Request.ofHead (Text.lines front) = .ok r) :
    Request.ofHead (Text.lines (lines ++ ['\n', '\r', '\n'])) = .ok r := by
  have hhead : Text.lines (lines ++ ['\n', '\r', '\n']) = _ := lines_eq lines (.inr rfl) []
  rw [hhead, Request.ofHead_append_nil (lines_ne_nil lines)]
  rcases hfront with rfl | rfl <;> rw [Text.lines_append] at h
  · rwa [Text.lines_nil, List.append_nil] at h
  · -- a carriage return by itself would be a header line without a colon
    exact Request.ofHead_append_of_cut (lines_ne_nil lines) (by decide) (by decide) h

/-- **The lines of the head are what is parsed**, wherever the parser cuts. -/
theorem parse_append (hhead : IsHead head) {r : Request}
    (h : Request.parse (head ++ body) = .ok r) :
    Request.ofHead (Text.lines head) = .ok { r with body := [] } ∧
      ∃ text, text <:+ body ∧ r.body = Utf8.encode text ∧
        (text = body ↔ body = [] ∨ Request.EndShows head body) := by
  by_cases hshows : Request.EndShows head body
  · obtain ⟨front, blank, hblank, hfront, hsplit⟩ := hhead.splitHead_of_endShows hshows
    obtain ⟨hlines, hbody⟩ := Request.of_parse hsplit h
    rw [hhead.ofHead_front hblank hfront] at hlines
    exact ⟨hlines, body, List.suffix_refl _, hbody, by simp [hshows]⟩
  · rcases hsplit : Request.splitHead (head ++ body) with ⟨front, after⟩
    obtain ⟨⟨taken, htaken, hnone⟩, hcut⟩ := hhead.splitHead_of_not_endShows hshows hsplit
    obtain ⟨hlines, hbody⟩ := Request.of_parse hsplit h
    refine ⟨?_, after, ⟨taken, htaken.symm⟩, hbody, ?_⟩
    · rcases hcut with ⟨u, rfl⟩ | ⟨lines, rfl, hfront⟩
      · rwa [hhead.ofHead_append] at hlines
      · exact ofHead_left hfront hlines
    · constructor
      · rintro rfl
        exact .inl (hnone (List.append_cancel_right htaken.symm))
      · rintro (rfl | hshows')
        · exact (List.append_eq_nil_iff.mp htaken.symm).2
        · exact absurd hshows' hshows

end IsHead

namespace Request

/-- What is taken off as a request: a head that is not blank, and as many octets behind it as its
Content-Length says. -/
theorem of_readMessage {input rest : Bytes} {raw : Text}
    (h : Control.readMessage input = .ok (some raw, rest)) :
    ∃ octets behind, Control.readHead input = .head octets behind ∧
      Text.isBlankLine (Utf8.decodeLenient octets) = false ∧
      Control.contentLength (Utf8.decodeLenient octets) ≤ behind.length ∧
      raw = Utf8.decodeLenient octets ++ Utf8.decodeLenient
        (behind.take (Control.contentLength (Utf8.decodeLenient octets))) ∧
      rest = behind.drop (Control.contentLength (Utf8.decodeLenient octets)) := by
  simp only [Control.readMessage] at h
  split at h
  · cases h
  · cases h
  next octets behind hhead =>
  split at h
  · cases h
  next hblank =>
  split at h
  · cases h
  split at h
  · cases h
  next hsize =>
  obtain ⟨hraw, hrest⟩ := Prod.mk.inj (Except.ok.inj h)
  exact ⟨octets, behind, hhead, by simpa using hblank, Nat.not_lt.mp hsize,
    (Option.some.inj hraw).symm, hrest.symm⟩

/-- **Where the body of a request begins.**  The head of a request that is taken off a stream and
parsed ends with the first empty line, and its body is counted by its Content-Length.  Parsing
gives the request of the lines of the head, and of the body some last part: all of it if and only
if the body is empty or the end of the head shows in front of it. -/
theorem parse_of_readMessage {input rest : Bytes} {raw : Text} {r : Request}
    (hread : Control.readMessage input = .ok (some raw, rest)) (hparse : parse raw = .ok r) :
    ∃ octets behind,
      input = octets ++ behind ∧
      Control.EndsEmpty octets ∧ (∀ p, p <+: octets → Control.EndsEmpty p → p = octets) ∧
      let head := Utf8.decodeLenient octets
      let size := Control.contentLength head
      let body := Utf8.decodeLenient (behind.take size)
      size ≤ behind.length ∧ rest = behind.drop size ∧
      ofHead (Text.lines head) = .ok { r with body := [] } ∧
      ∃ text, text <:+ body ∧ r.body = Utf8.encode text ∧
        (text = body ↔ body = [] ∨ EndShows head body) := by
  obtain ⟨octets, behind, hhead, hblank, hsize, rfl, hrest⟩ := of_readMessage hread
  obtain ⟨hinput, hends, hfirst⟩ := Control.of_readHead hhead
  exact ⟨octets, behind, hinput, hends, hfirst, hsize, hrest,
    (Control.isHead_of_readHead hhead hblank).parse_append hparse⟩

example : EndShows "OPTIONS * RTSP/1.0\r\n\r\n".toList "a\n\nb".toList := by decide +kernel
example : ¬EndShows "OPTIONS * RTSP/1.0\n\r\n".toList [] := by decide +kernel

/-- A request whose lines end with LF, in front of a body that begins with two line ends. -/
def feedsText : Text := "SET_PARAMETER * RTSP/1.0\nCSeq: 1\nContent-Length: 6\n\n\r\n\r\nhi".toList

/-- What is parsed of it: the body is cut short. -/
def feedsRequest : Request where
  method := .setParameter
  target := ['*']
  headers := ⟨[("CSeq".toList, "1".toList), ("Content-Length".toList, "6".toList)]⟩
  body := Utf8.encode "hi".toList

theorem feeds_parsed :
    Control.readMessage (Utf8.encode feedsText) = .ok (some feedsText, []) ∧
      parse feedsText = .ok feedsRequest ∧
      ∃ octets behind, Utf8.encode feedsText = octets ++ behind ∧ Control.EndsEmpty octets ∧
        ofHead (Text.lines (Utf8.decodeLenient octets)) = .ok { feedsRequest with body := [] } := by
  have hread : Control.readMessage (Utf8.encode feedsText) = .ok (some feedsText, []) := by
    decide +kernel
  have hparse : parse feedsText = .ok feedsRequest := by
    decide +kernel
  obtain ⟨octets, behind, hinput, hends, -, -, -, hlines, -⟩ := parse_of_readMessage hread hparse
  exact ⟨hread, hparse, octets, behind, hinput, hends, hlines⟩

/-- The body that was taken off is not always the one that is parsed. -/
theorem feeds_cut_short : ¬∀ (input octets behind rest : Bytes) (raw : Text) (r : Request),
    Control.readHead input = .head octets behind →
    Control.readMessage input = .ok (some raw, rest) → parse raw = .ok r →
      r.body = Utf8.encode (Utf8.decodeLenient
        (behind.take (Control.contentLength (Utf8.decodeLenient octets)))) := by
  intro h
  have hbody := h (Utf8.encode feedsText)
    (Utf8.encode "SET_PARAMETER * RTSP/1.0\nCSeq: 1\nContent-Length: 6\n\n".toList)
    (Utf8.encode "\r\n\r\nhi".toList) [] feedsText feedsRequest
    (by decide +kernel) (by decide +kernel) (by decide +kernel)
  exact absurd hbody (by decide +kernel)

end Request

end RtspServer
