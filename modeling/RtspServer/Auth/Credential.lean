/-
RtspServer/Auth/Credential.lean

Who may use the server: a user name, a password and the realm that a client is
asked for.  User names are compared without regard to ASCII case, passwords
exactly.
-/
import RtspServer.Text.Blank
import RtspServer.Text.Quoted

namespace RtspServer

/-- A user name, a password and a realm. -/
structure Credential where
  username : Text
  password : Text
  realm : Text
  deriving DecidableEq, Repr

/-- A credential for people to read. The password is never shown. -/
def Credential.shown (c : Credential) : Text :=
  "Credential \x7b username: ".toList ++ Text.quoted c.username
    ++ ", password: \"<redacted>\", realm: ".toList ++ Text.quoted c.realm ++ " \x7d".toList

/-- What follows the name of a scheme, in any ASCII case, and a space. -/
def dropScheme? (scheme : String) (value : Text) : Option Text :=
  let value := Text.trimStart value
  let size := scheme.toList.length
  if Text.eqFold (value.take size) scheme.toList && (value.drop size).head? == some ' ' then
    some (Text.trimStart (value.drop size))
  else none

/-- A text between double quotes, without regard to quotes inside it. -/
def inQuotes (t : Text) : Text := '"' :: t ++ ['"']

end RtspServer
