/-
RtspServer/Message/Headers.lean

The headers of a message: names with values, in the order in which the names
first came.  A name keeps the spelling it first had and is found under any
spelling that differs only in ASCII case.  Inserting a name that is present
replaces its value where it stands.

Content-Length is never written from the headers.  Whoever writes a message
counts its body and says so itself.
-/
import RtspServer.Text.Numeral

namespace RtspServer

/-- Names with their values, in order. -/
structure Headers where
  entries : List (Text × Text) := []
  deriving DecidableEq, Repr

namespace Headers

/-- No headers. -/
def empty : Headers := {}

/-- Replace the value of `name` where it stands, or put it at the end. -/
def put (name value : Text) : List (Text × Text) → List (Text × Text)
  | [] => [(name, value)]
  | entry :: rest =>
    if entry.1.eqFold name then (entry.1, value) :: rest else entry :: put name value rest

/-- Set the value of a name. -/
def insert (h : Headers) (name value : Text) : Headers := ⟨put name value h.entries⟩

/-- The value of a name. -/
def get? (h : Headers) (name : Text) : Option Text :=
  (h.entries.find? fun entry => entry.1.eqFold name).map (·.2)

/-- Is there a value for a name? -/
def contains (h : Headers) (name : Text) : Bool := (h.get? name).isSome

/-- Leave out a name. -/
def remove (h : Headers) (name : Text) : Headers :=
  ⟨h.entries.eraseP fun entry => entry.1.eqFold name⟩

/-- Leave out a name, and say what its value was. -/
def pop (h : Headers) (name : Text) : Option Text × Headers :=
  match h.entries.findIdx? fun entry => entry.1.eqFold name with
  | some place => (h.entries[place]?.map (·.2), ⟨h.entries.eraseIdx place⟩)
  | none => (none, h)

/-- How many names there are. -/
def size (h : Headers) : Nat := h.entries.length

/-- The end of a line. -/
def lineEnd : Text := ['\r', '\n']

/-- One header on a line of its own. -/
def lineOf (entry : Text × Text) : Text := entry.1 ++ ": ".toList ++ entry.2 ++ lineEnd

/-- Is this the header that counts the body? -/
def isContentLength (name : Text) : Bool := name.eqFold "Content-Length".toList

/-- Every header but Content-Length, each on a line of its own. -/
def text (h : Headers) : Text :=
  (h.entries.filter fun entry => !isContentLength entry.1).flatMap lineOf

/-- The line that counts a body, if there is one, and the blank line before it. -/
def bodyHead (body : Bytes) : Text :=
  (if body.isEmpty then []
    else "Content-Length: ".toList ++ Text.decimal body.length ++ lineEnd) ++ lineEnd

/-! ### One equation per operation -/

@[simp] theorem get?_empty (name : Text) : empty.get? name = none := rfl

theorem find?_put_self (name value : Text) (entries : List (Text × Text)) :
    ((put name value entries).find? fun entry => entry.1.eqFold name).map (·.2) = some value := by
  induction entries with
  | nil => simp [put]
  | cons entry rest ih =>
    by_cases h : entry.1.eqFold name = true
    · simp [put, h]
    · simp [put, h, ih]

@[simp] theorem get?_insert_self (h : Headers) (name value : Text) :
    (h.insert name value).get? name = some value :=
  find?_put_self name value h.entries

theorem find?_put_of_ne {name other : Text} (hne : name.eqFold other = false) (value : Text)
    (entries : List (Text × Text)) :
    (put name value entries).find? (fun entry => entry.1.eqFold other) =
      entries.find? fun entry => entry.1.eqFold other := by
  induction entries with
  | nil => simp [put, hne]
  | cons entry rest ih =>
    by_cases h : entry.1.eqFold name = true
    · have hother : entry.1.eqFold other = false := by
        rw [Bool.eq_false_iff]
        intro ho
        rw [Text.eqFold_comm] at h
        rw [Text.eqFold_trans h ho] at hne
        exact Bool.noConfusion hne
      simp [put, h, hother]
    · by_cases ho : entry.1.eqFold other = true
      · simp [put, h, ho]
      · simp [put, h, ho, ih]

theorem get?_insert_of_ne (h : Headers) {name other : Text} (hne : name.eqFold other = false)
    (value : Text) : (h.insert name value).get? other = h.get? other := by
  simp only [get?, insert, find?_put_of_ne hne]

/-- What is popped is what would be found and what would be left. -/
theorem pop_eq (h : Headers) (name : Text) : h.pop name = (h.get? name, h.remove name) := by
  obtain ⟨entries⟩ := h
  simp only [pop, get?, remove]
  induction entries with
  | nil => rfl
  | cons entry rest ih =>
    by_cases he : entry.1.eqFold name = true
    · simp [List.findIdx?_cons, he]
    · rw [Bool.not_eq_true] at he
      simp only [List.findIdx?_cons, List.find?_cons, List.eraseP_cons, he, Bool.false_eq_true,
        if_false, Bool.cond_false]
      -- the place is one further on than among the others
      cases hplace : rest.findIdx? fun entry => entry.1.eqFold name with
      | none | some place =>
        rw [hplace] at ih
        obtain ⟨hvalue, hleft⟩ := Prod.mk.inj ih
        rw [← hvalue, ← Headers.mk.inj hleft]
        rfl

end Headers

end RtspServer
