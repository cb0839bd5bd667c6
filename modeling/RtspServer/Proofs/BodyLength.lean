/-
RtspServer/Proofs/BodyLength.lean

How many octets of a stream belong to the body of a request.  The first line of
the head that is named Content-Length announces them (`Control.Announces`), by a
decimal numeral that may have any number of digits.

The numeral is read as a machine word.  If it fits, the body is exactly as long
as it says, or it is refused: for being too large, or because the stream ends
before.  If it does not fit, it counts as zero.  Then no body is taken off, and
the octets announced as one are dealt with as the next message
(`Control.huge_body_is_dealt_with`).
-/
import RtspServer.Proofs.HeadEnd
import Mathlib.Algebra.Group.Nat.Defs

namespace RtspServer

/-! ### Numerals of any length -/

namespace Text

/-- A decimal numeral, however long, and the number it stands for. -/
structure IsNumeral (t : Text) (n : Nat) : Prop where
  ne_nil : t ≠ []
  digits : ∀ c ∈ t, c.isDigit = true
  value : Nat.ofDigitChars 10 t 0 = n

theorem digitValue?_of_isDigit {c : Char} (hc : c.isDigit = true) :
    digitValue? 10 c = some (c.toNat - '0'.toNat) := by
  have hrange : 48 ≤ c.toNat ∧ c.toNat ≤ 57 := by
    simpa [Char.isDigit, UInt32.le_iff_toNat_le] using hc
  have hchar : ('0' ≤ c && c ≤ '9') = true := by
    simpa [Char.le_def, UInt32.le_iff_toNat_le] using hrange
  simp only [digitValue?, hchar, if_true, Char.reduceToNat]
  rw [if_pos (by omega)]

/-- More digits do not make a number smaller. -/
theorem le_ofDigitChars (t : Text) (value : Nat) : value ≤ Nat.ofDigitChars 10 t value := by
  induction t generalizing value with
  | nil => exact Nat.le_refl _
  | cons c t ih =>
    rw [Nat.ofDigitChars_cons]
    have := ih (10 * value + (c.toNat - '0'.toNat))
    omega

/-- Digits are read as their number, unless it reaches the bound. -/
theorem digitsFrom?_of_isDigit {bound value : Nat} {t : Text} (ht : ∀ c ∈ t, c.isDigit = true)
    (hvalue : value < bound) :
    digitsFrom? 10 bound value t =
      if Nat.ofDigitChars 10 t value < bound then some (Nat.ofDigitChars 10 t value)
      else none := by
  induction t generalizing value with
  | nil => exact (if_pos hvalue).symm
  | cons c t ih =>
    rw [digitsFrom?, digitValue?_of_isDigit (ht c List.mem_cons_self), Nat.ofDigitChars_cons,
      Nat.mul_comm 10 value]
    by_cases hnext : value * 10 + (c.toNat - '0'.toNat) < bound
    · simp only [if_pos hnext, ih (fun d hd => ht d (List.mem_cons_of_mem _ hd)) hnext]
    · -- what is left of the text cannot bring the number below the bound again
      have hle := le_ofDigitChars t (value * 10 + (c.toNat - '0'.toNat))
      simp only [if_neg hnext]
      rw [if_neg (by omega)]

/-- **A numeral is read as its number if it is below the bound**, and as none otherwise. -/
theorem IsNumeral.numeral? {t : Text} {n bound : Nat} (h : IsNumeral t n) (hbound : 0 < bound) :
    numeral? 10 bound t = if n < bound then some n else none := by
  have hdigits : digits? 10 bound t = if n < bound then some n else none := by
    rw [digits?, if_neg (by simpa using h.ne_nil), digitsFrom?_of_isDigit h.digits hbound, h.value]
  unfold Text.numeral?
  split
  · -- a numeral does not begin with a sign
    exact absurd (h.digits '+' List.mem_cons_self) (by decide)
  · exact hdigits

end Text

namespace Control

/-! ### The length that a head announces -/

/-- A line named Content-Length, in any ASCII case, and what stands behind its first colon. -/
def IsLengthLine (line value : Text) : Prop :=
  ∃ name, line = name ++ ':' :: value ∧ ':' ∉ name ∧
    Headers.isContentLength (Text.trim name) = true

/-- The first line of a head that is named Content-Length has a numeral of this number. -/
def Announces (head : Text) (n : Nat) : Prop :=
  ∃ before line value after, Text.lines head = before ++ line :: after ∧
    IsLengthLine line value ∧ (∀ l ∈ before, ∀ v, ¬IsLengthLine l v) ∧
    Text.IsNumeral (Text.trim value) n

theorem isLengthLine_iff {line value : Text} :
    IsLengthLine line value ↔ ∃ name, Text.cut ':' line = some (name, value) ∧
      Headers.isContentLength (Text.trim name) = true := by
  constructor
  · rintro ⟨name, rfl, hname, hlength⟩
    exact ⟨name, Text.cut_append hname value, hlength⟩
  · rintro ⟨name, hcut, hlength⟩
    by_cases hc : ':' ∈ line
    · obtain ⟨before, behind, rfl, hbefore⟩ := List.eq_append_cons_of_mem hc
      obtain ⟨rfl, rfl⟩ := Prod.mk.inj (Option.some.inj ((Text.cut_append hbefore _).symm.trans hcut))
      exact ⟨before, rfl, hbefore, hlength⟩
    · rw [Text.cut_of_notMem hc] at hcut
      cases hcut

theorem not_isLengthLine {line : Text} (h : ((Text.cut ':' line).any fun p =>
    Headers.isContentLength (Text.trim p.1)) = false) (value : Text) :
    ¬IsLengthLine line value := by
  intro hline
  obtain ⟨name, hcut, hname⟩ := isLengthLine_iff.mp hline
  rw [hcut, Option.any_some, hname] at h
  cases h

/-- **The length of a body** is the number that is announced, if it fits a machine word. -/
theorem Announces.contentLength {head : Text} {n : Nat} (h : Announces head n) :
    contentLength head = if n < UInt64.size then n else 0 := by
  obtain ⟨before, line, value, after, hlines, hline, hbefore, hn⟩ := h
  obtain ⟨name, hcut, hname⟩ := isLengthLine_iff.mp hline
  have hnone : (before.filterMap (Text.cut ':')).find?
      (fun p => Headers.isContentLength (Text.trim p.1)) = none := by
    refine List.find?_eq_none.mpr fun p hp hlength => ?_
    obtain ⟨l, hl, hp⟩ := List.mem_filterMap.mp hp
    exact hbefore l hl p.2 (isLengthLine_iff.mpr ⟨p.1, hp, hlength⟩)
  have hfind : ((Text.lines head).filterMap (Text.cut ':')).find?
      (fun p => Headers.isContentLength (Text.trim p.1)) = some (name, value) := by
    rw [hlines, List.filterMap_append, List.find?_append, hnone, List.filterMap_cons, hcut,
      Option.none_or]
    exact List.find?_cons_of_pos hname
  simp only [Control.contentLength, hfind]
  rw [hn.numeral? (by decide)]
  split <;> rfl

/-! ### Head and body -/

theorem HeadOctets.ne_nil {octets : Bytes} (h : HeadOctets octets) : octets ≠ [] := by
  rintro rfl
  exact not_endsEmpty_of_prefix_nil List.prefix_rfl h.ends

/-- A request is its head and as many octets as the head says. -/
theorem HeadOctets.readMessage_append {octets : Bytes} (h : HeadOctets octets)
    (hsize : octets.length ≤ maxHead)
    (hblank : Text.isBlankLine (Utf8.decodeLenient octets) = false) (rest : Bytes) :
    let size := contentLength (Utf8.decodeLenient octets)
    readMessage (octets ++ rest) =
      if maxBody < size then .error .bodyTooLarge
      else if rest.length < size then .error .readError
      else .ok (some (Utf8.decodeLenient octets ++ Utf8.decodeLenient (rest.take size)),
        rest.drop size) := by
  simp only [readMessage, h.readHead_append hsize rest, hblank, Bool.false_eq_true, if_false]

end Control

/-- What is dealt with next is what is left of the stream behind the message that was read. -/
theorem Hub.readMessage_of_exchange {h : Hub} {c client : Client} {now : Nat}
    {input next : Bytes} (hopening : input.head? ≠ some Frame.opening)
    (he : (h.exchange c now input).1 = .ok (client, next)) :
    ∃ message, Control.readMessage input = .ok (message, next) := by
  rcases input with - | ⟨b, behind⟩
  · cases he
  rw [exchange_of_head rfl fun hb => hopening (congrArg some hb)] at he
  rcases hread : Control.readMessage (b :: behind) with departure | ⟨message, rest⟩ <;>
    rw [hread] at he
  · cases he
  rcases message with - | raw
  · exact ⟨none, by rw [(Prod.mk.inj (Except.ok.inj he)).2]⟩
  simp only at he
  rcases hrespond : (h.respond c (Request.ofText raw) now).1 with departure | answered <;>
    rw [hrespond] at he
  · cases he
  · exact ⟨some raw, by rw [(Prod.mk.inj (Except.ok.inj he)).2]⟩

namespace Control

/-- **What becomes of the octets that a head announces as a body.**  A number that fits a machine
word is taken at its word: a body that is too large or not there ends the connection, any other is
taken off with its head, so that the next message begins behind it.  For a number that does not
fit, nothing is taken off but the head. -/
theorem readMessage_of_announces {octets : Bytes} {n : Nat} (hhead : HeadOctets octets)
    (hsize : octets.length ≤ 16384) (hblank : Text.isBlankLine (Utf8.decodeLenient octets) = false)
    (hn : Announces (Utf8.decodeLenient octets) n) (rest : Bytes) :
    (n < 2 ^ 64 →
      (65536 < n → (readMessage (octets ++ rest)).mapError Departure.reason =
        .error "request body too large".toList) ∧
      (n ≤ 65536 → rest.length < n → (readMessage (octets ++ rest)).mapError Departure.reason =
        .error "read error".toList) ∧
      (n ≤ 65536 → n ≤ rest.length → readMessage (octets ++ rest) =
        .ok (some (Utf8.decodeLenient octets ++ Utf8.decodeLenient (rest.take n)), rest.drop n)) ∧
      (octets.head? ≠ some Frame.opening →
        ∀ (h : Hub) (c client : Client) (now : Nat) (next : Bytes),
          (h.exchange c now (octets ++ rest)).1 = .ok (client, next) → next = rest.drop n)) ∧
    (2 ^ 64 ≤ n → readMessage (octets ++ rest) = .ok (some (Utf8.decodeLenient octets), rest)) := by
  have hread := hhead.readMessage_append hsize hblank rest
  simp only [hn.contentLength] at hread
  refine ⟨fun hword => ?_, fun hword => ?_⟩
  · simp only [if_pos (show n < UInt64.size from hword)] at hread
    have hlarge : 65536 < n → readMessage (octets ++ rest) = .error .bodyTooLarge := fun hlarge =>
      hread.trans (if_pos hlarge)
    have hshort : n ≤ 65536 → rest.length < n → readMessage (octets ++ rest) = .error .readError :=
      fun hsmall hshort => hread.trans
        ((if_neg (Nat.not_lt.mpr hsmall)).trans (if_pos hshort))
    have hwhole : n ≤ 65536 → n ≤ rest.length → readMessage (octets ++ rest) =
        .ok (some (Utf8.decodeLenient octets ++ Utf8.decodeLenient (rest.take n)), rest.drop n) :=
      fun hsmall hlong => hread.trans
        ((if_neg (Nat.not_lt.mpr hsmall)).trans (if_neg (Nat.not_lt.mpr hlong)))
    refine ⟨fun h => ?_, fun h h' => ?_, hwhole, fun hopening h c client now next he => ?_⟩
    · rw [hlarge h]
      rfl
    · rw [hshort h h']
      rfl
    · have hfirst : (octets ++ rest).head? ≠ some Frame.opening := by
        rwa [List.head?_append_of_ne_nil _ hhead.ne_nil]
      obtain ⟨message, hmessage⟩ := Hub.readMessage_of_exchange hfirst he
      rcases Nat.lt_or_ge 65536 n with hn | hn
      · rw [hlarge hn] at hmessage
        cases hmessage
      rcases Nat.lt_or_ge rest.length n with hn' | hn'
      · rw [hshort hn hn'] at hmessage
        cases hmessage
      · rw [hwhole hn hn'] at hmessage
        exact (Prod.mk.inj (Except.ok.inj hmessage)).2.symm
  · rw [if_neg (Nat.not_lt.mpr (show UInt64.size ≤ n from hword))] at hread
    rw [hread, if_neg (Nat.not_lt_zero _), if_neg (Nat.not_lt_zero _), List.take_zero,
      Utf8.decodeLenient_nil, List.append_nil, List.drop_zero]

/-- The head of a request with a Content-Length. -/
def lengthHead (digits : Text) : Text :=
  "SET_PARAMETER * RTSP/1.0\r\nCSeq: 2\r\ncontent-length: ".toList ++ digits ++
    "\r\n\r\n".toList

/-- A request that stands where the body of another one should be. -/
def hiddenRequest : Text := "OPTIONS * RTSP/1.0\r\nCSeq: 3\r\n\r\n".toList

/-- Such a head announces its digits. -/
theorem announces_lengthHead {digits : Text} {n : Nat}
    (hlines : Text.lines (lengthHead digits) = ["SET_PARAMETER * RTSP/1.0".toList,
      "CSeq: 2".toList, "content-length: ".toList ++ digits, []])
    (htrim : Text.trim (' ' :: digits) = digits) (hne : digits ≠ [])
    (hdigits : digits.all Char.isDigit = true) (hvalue : Nat.ofDigitChars 10 digits 0 = n) :
    Announces (Utf8.decodeLenient (Utf8.encode (lengthHead digits))) n := by
  have hnumeral : Text.IsNumeral digits n := ⟨hne, List.all_eq_true.mp hdigits, hvalue⟩
  rw [Utf8.decodeLenient_encode]
  refine ⟨["SET_PARAMETER * RTSP/1.0".toList, "CSeq: 2".toList], _, ' ' :: digits, [[]], hlines,
    ⟨"content-length".toList, rfl, by decide, by decide⟩, ?_, by rwa [htrim]⟩
  intro l hl
  refine not_isLengthLine ?_
  revert l
  decide

theorem headOctets_lengthHead {digits : Text}
    (h : readHead (Utf8.encode (lengthHead digits)) = .head (Utf8.encode (lengthHead digits)) []) :
    HeadOctets (Utf8.encode (lengthHead digits)) :=
  headOctets_of_readHead h

theorem bodies_taken_or_refused :
    (readMessage (Utf8.encode (lengthHead "00005".toList) ++ Utf8.encode "helloOPTIONS".toList) =
      .ok (some (lengthHead "00005".toList ++ "hello".toList), Utf8.encode "OPTIONS".toList)) ∧
    (readMessage (Utf8.encode (lengthHead "65537".toList) ++ [])).mapError Departure.reason =
      .error "request body too large".toList := by
  have hsmall : HeadOctets (Utf8.encode (lengthHead "00005".toList)) :=
    headOctets_lengthHead (by decide +kernel)
  have hlarge : HeadOctets (Utf8.encode (lengthHead "65537".toList)) :=
    headOctets_lengthHead (by decide +kernel)
  have hfive : Announces (Utf8.decodeLenient (Utf8.encode (lengthHead "00005".toList))) 5 :=
    announces_lengthHead (by decide +kernel) (by decide) (by decide) (by decide) (by decide)
  have hmany : Announces (Utf8.decodeLenient (Utf8.encode (lengthHead "65537".toList))) 65537 :=
    announces_lengthHead (by decide +kernel) (by decide) (by decide) (by decide) (by decide)
  constructor
  · have h := (readMessage_of_announces hsmall (by decide +kernel) (by decide +kernel) hfive
      (Utf8.encode "helloOPTIONS".toList)).1 (by decide)
    rw [h.2.2.1 (by decide) (by decide +kernel)]
    decide +kernel
  · have h := (readMessage_of_announces hlarge (by decide +kernel) (by decide +kernel) hmany []).1
      (by decide)
    exact h.1 (by decide)

/-- A body whose length does not fit a machine word is not refused: what stands in its place is the
next request. -/
theorem huge_body_is_dealt_with :
    (¬∀ (octets rest : Bytes) (n : Nat), HeadOctets octets → octets.length ≤ 16384 →
      Text.isBlankLine (Utf8.decodeLenient octets) = false →
      Announces (Utf8.decodeLenient octets) n → 65536 < n →
        readMessage (octets ++ rest) = .error .bodyTooLarge) ∧
    readMessage (Utf8.encode (lengthHead "18446744073709551616".toList) ++
      Utf8.encode hiddenRequest) =
        .ok (some (lengthHead "18446744073709551616".toList), Utf8.encode hiddenRequest) ∧
    readMessage (Utf8.encode hiddenRequest) = .ok (some hiddenRequest, []) := by
  have hread : readMessage (Utf8.encode (lengthHead "18446744073709551616".toList) ++
      Utf8.encode hiddenRequest) =
        .ok (some (lengthHead "18446744073709551616".toList), Utf8.encode hiddenRequest) := by
    decide +kernel
  refine ⟨fun h => ?_, hread, by decide +kernel⟩
  have hrefused := h (Utf8.encode (lengthHead "18446744073709551616".toList))
    (Utf8.encode hiddenRequest) 18446744073709551616
    (headOctets_lengthHead (by decide +kernel)) (by decide +kernel) (by decide +kernel)
    (announces_lengthHead (by decide +kernel) (by decide) (by decide) (by decide) (by decide))
    (by decide)
  rw [hread] at hrefused
  cases hrefused

end Control

end RtspServer
