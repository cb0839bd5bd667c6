/-
RtspServer/Message/Method.lean

The verbs of the protocol (RFC 2326, section 10).  A verb is recognised in any
ASCII case; every other word, the empty one too, stands for `Method.unknown`, so
that a request with it still gets an answer.
-/
import RtspServer.Text.Basic

namespace RtspServer

/-- What a request asks for. -/
inductive Method where
  | options
  | describe
  | setup
  | play
  | pause
  | teardown
  | getParameter
  | announce
  | record
  | setParameter
  | redirect
  | unknown
  deriving DecidableEq, Repr

namespace Method

/-- Every verb that has a name of its own. -/
def known : List Method :=
  [.options, .describe, .setup, .play, .pause, .teardown, .getParameter, .announce, .record,
    .setParameter, .redirect]

/-- The verb as it is written. -/
def name : Method → Text
  | .options => "OPTIONS".toList
  | .describe => "DESCRIBE".toList
  | .setup => "SETUP".toList
  | .play => "PLAY".toList
  | .pause => "PAUSE".toList
  | .teardown => "TEARDOWN".toList
  | .getParameter => "GET_PARAMETER".toList
  | .announce => "ANNOUNCE".toList
  | .record => "RECORD".toList
  | .setParameter => "SET_PARAMETER".toList
  | .redirect => "REDIRECT".toList
  | .unknown => "UNKNOWN".toList

/-- The method a verb stands for. -/
def ofVerb (verb : Text) : Method := (known.find? (·.name.eqFold verb)).getD .unknown

/-- A method is found again under its own name. -/
@[simp] theorem ofVerb_name (m : Method) : ofVerb m.name = m := by
  cases m <;> decide

end Method

end RtspServer
