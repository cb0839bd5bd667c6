/-
RtspServer/Session/Entropy.lean

Where random words come from: for each width a sequence of words and how many of
them have been drawn.  A new connection draws its first sequence number and its
source, a first SETUP draws a session number.
-/
import RtspServer.Text.Numeral

namespace RtspServer

/-- Sequences of random words of three widths, and how far each has been used. -/
structure Entropy where
  words16 : Nat → UInt16
  words32 : Nat → UInt32
  words64 : Nat → UInt64
  used16 : Nat := 0
  used32 : Nat := 0
  used64 : Nat := 0

namespace Entropy

/-- Draw a first sequence number. It is never zero. -/
def drawSequence (e : Entropy) : UInt16 × Entropy :=
  let w := e.words16 e.used16
  (if w = 0 then 1 else w, { e with used16 := e.used16 + 1 })

/-- Draw a synchronization source. -/
def drawSource (e : Entropy) : UInt32 × Entropy :=
  (e.words32 e.used32, { e with used32 := e.used32 + 1 })

/-- The name of the session with a number: sixteen hexadecimal digits. -/
def sessionName (w : UInt64) : Text := Text.hexUpper 16 w.toNat

/-- Draw the name of a session. -/
def drawSession (e : Entropy) : Text × Entropy :=
  (sessionName (e.words64 e.used64), { e with used64 := e.used64 + 1 })

theorem fst_drawSession (e : Entropy) : e.drawSession.1 = sessionName (e.words64 e.used64) := by
  unfold drawSession
  with_reducible rfl

@[simp] theorem words64_drawSession (e : Entropy) : e.drawSession.2.words64 = e.words64 := rfl

@[simp] theorem used64_drawSession (e : Entropy) : e.drawSession.2.used64 = e.used64 + 1 := rfl

end Entropy

end RtspServer
