/-
RtspServer/Auth/Authenticator.lean

The two ways to ask for credentials behind one interface.  Validation has two
outcomes and no causes: a missing header, an unreadable one and a wrong password
look alike.
-/
import RtspServer.Auth.Basic
import RtspServer.Auth.Digest
import RtspServer.Message.Request

namespace RtspServer

/-- A way to ask for credentials. -/
inductive Authenticator where
  | basic (credential : Credential)
  | digest (key : DigestKey)
  deriving DecidableEq, Repr

namespace Authenticator

/-- The name of the scheme. -/
def scheme : Authenticator → Text
  | .basic _ => "Basic".toList
  | .digest _ => "Digest".toList

/-- The credential that is asked for. -/
def credential : Authenticator → Credential
  | .basic c => c
  | .digest k => k.credential

/-- What a client without authorization is told. -/
def challenge : Authenticator → Text
  | .basic c => BasicAuth.challenge c
  | .digest k => k.challenge

/-- What a client that holds the credential sends with a verb and an address. -/
def authorization (a : Authenticator) (verb target : Text) : Text :=
  match a with
  | .basic c => BasicAuth.authorization c
  | .digest k => k.authorization verb target

/-- Is a request authorized? -/
def validate (a : Authenticator) (r : Request) : Bool :=
  match r.header? "Authorization" with
  | none => false
  | some value =>
    match a with
    | .basic c => BasicAuth.accepts c value
    | .digest k => k.accepts r.verb value

end Authenticator

end RtspServer
