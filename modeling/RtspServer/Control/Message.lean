/-
RtspServer/Control/Message.lean

Taking one message off the front of a control connection.

A `$` frame announces its size.  Any other message is a request: its head goes
up to the first blank line, and the Content-Length it announces, if any, says how
many octets of body follow.  Head and body have size limits.  A blank line alone
is skipped.

The head is read line by line against a budget of octets, so a flood without a
blank line is given up after exactly that many octets.
-/
import RtspServer.Message.Request
import RtspServer.Transport.Frame

namespace RtspServer

/-- Why a control connection ends. -/
inductive Departure where
  | closedByClient
  | readError
  | headTooLarge
  | bodyTooLarge
  | writeError
  | afterResponse
  | shuttingDown
  deriving DecidableEq, Repr

/-- The wording of a departure. -/
def Departure.reason : Departure → Text
  | .closedByClient => "connection closed by client".toList
  | .readError => "read error".toList
  | .headTooLarge => "request head too large".toList
  | .bodyTooLarge => "request body too large".toList
  | .writeError => "write error".toList
  | .afterResponse => "closed after response".toList
  | .shuttingDown => "server shutting down".toList

namespace Control

/-- The most octets of a head, its blank line included. -/
def maxHead : Nat := 16384

/-- The most octets of a body. -/
def maxBody : Nat := 65536

/-! ### The head -/

/-- The octet that ends a line. -/
def lineFeed : UInt8 := 10

/-- The octets up to and with the first line feed, `budget` octets at most, and the rest. -/
def takeLine : Nat → Bytes → Bytes × Bytes
  | 0, input => ([], input)
  | _ + 1, [] => ([], [])
  | budget + 1, b :: rest =>
    if b = lineFeed then ([b], rest)
    else (b :: (takeLine budget rest).1, (takeLine budget rest).2)

/-- A line that is nothing but its line end. -/
def isEmptyLine (line : Bytes) : Bool := line == [13, 10] || line == [10]

/-- What becomes of the start of a stream that is read as a head. -/
inductive HeadResult where
  /-- The head, its blank line included, and what follows it. -/
  | head (octets rest : Bytes)
  /-- The budget is used up without a blank line; `rest` has not been read. -/
  | tooLarge (rest : Bytes)
  /-- The stream ended before a blank line. -/
  | ended
  deriving DecidableEq, Repr

/-- A line shrinks the budget. -/
theorem length_takeLine_le (budget : Nat) (input : Bytes) :
    (takeLine budget input).1.length ≤ budget := by
  induction budget generalizing input with
  | zero => simp [takeLine]
  | succ n ih =>
    cases input with
    | nil => simp [takeLine]
    | cons b rest =>
      simp only [takeLine]
      split
      · simp
      · simpa using ih rest

/-- Read lines up to the first empty one; `before` has been read already. -/
def readHeadFrom (before : Bytes) (budget : Nat) (input : Bytes) : HeadResult :=
  match h : takeLine budget input with
  | ([], rest) => if budget = 0 then .tooLarge rest else .ended
  | (b :: line, rest) =>
    if isEmptyLine (b :: line) then .head (before ++ b :: line) rest
    else readHeadFrom (before ++ b :: line) (budget - (line.length + 1)) rest
  termination_by budget
  decreasing_by
    have := length_takeLine_le budget input
    rw [h] at this
    simp only [List.length_cons] at this
    omega

/-- Read a head. -/
def readHead (input : Bytes) : HeadResult := readHeadFrom [] maxHead input

/-! ### The body -/

/-- The number in the first Content-Length line of a head. A line that holds no number that fits
a machine word counts as zero, and so does a head without such a line. -/
def contentLength (head : Text) : Nat :=
  let parts := (Text.lines head).filterMap (Text.cut ':')
  match parts.find? fun p => Headers.isContentLength (Text.trim p.1) with
  | some (_, value) => (Text.numeral? 10 UInt64.size (Text.trim value)).getD 0
  | none => 0

/-- Read one request off the front of a stream: its text, or nothing for a blank line, and the
rest. -/
def readMessage (input : Bytes) : Except Departure (Option Text × Bytes) :=
  match readHead input with
  | .tooLarge _ => .error .headTooLarge
  | .ended => .error .closedByClient
  | .head octets rest =>
    let head := Utf8.decodeLenient octets
    if Text.isBlankLine head then .ok (none, rest)
    else
      let size := contentLength head
      if maxBody < size then .error .bodyTooLarge
      else if rest.length < size then .error .readError
      else .ok (some (head ++ Utf8.decodeLenient (rest.take size)), rest.drop size)

/-! ### Progress -/

/-- A line and what follows it are the input. -/
theorem length_takeLine_add (budget : Nat) (input : Bytes) :
    (takeLine budget input).1.length + (takeLine budget input).2.length = input.length := by
  induction budget generalizing input with
  | zero => simp [takeLine]
  | succ n ih =>
    cases input with
    | nil => simp [takeLine]
    | cons b rest =>
      simp only [takeLine]
      split
      · simp [Nat.add_comm]
      · have := ih rest
        simp only [List.length_cons]
        omega

/-- A head takes at least its blank line. -/
theorem length_rest_lt_of_head {before : Bytes} {budget : Nat} {input octets rest : Bytes}
    (h : readHeadFrom before budget input = .head octets rest) : rest.length < input.length := by
  fun_induction readHeadFrom before budget input with
  | case1 => simp at h
  | case2 => simp at h
  | case3 before budget input b line rest' hline hempty =>
    have := length_takeLine_add budget input
    simp only [HeadResult.head.injEq] at h
    rw [hline, h.2] at this
    simp only [List.length_cons] at this
    omega
  | case4 before budget input b line rest' hline hempty ih =>
    have := length_takeLine_add budget input
    rw [hline] at this
    simp only [List.length_cons] at this
    have := ih h
    omega

/-- A message takes at least one octet. -/
theorem length_rest_lt {input rest : Bytes} {message : Option Text}
    (h : readMessage input = .ok (message, rest)) : rest.length < input.length := by
  simp only [readMessage] at h
  split at h
  · simp at h
  · simp at h
  · next octets after hhead =>
    have hlt := length_rest_lt_of_head hhead
    split at h
    · simp only [Except.ok.injEq, Prod.mk.injEq] at h
      rw [← h.2]
      exact hlt
    · split at h
      · simp at h
      · split at h
        · simp at h
        · simp only [Except.ok.injEq, Prod.mk.injEq] at h
          rw [← h.2, List.length_drop]
          omega

end Control

end RtspServer
