/-
RtspServer/Auth/Basic.lean

Basic authentication (RFC 2617, section 2): user name and password, with a colon
between them, in Base64.
-/
import RtspServer.Auth.Credential
import RtspServer.Binary.Base64
import RtspServer.Text.Line
import RtspServer.Text.Utf8

namespace RtspServer

namespace BasicAuth

/-- What a client without authorization is told. -/
def challenge (c : Credential) : Text := "Basic realm=".toList ++ inQuotes c.realm

/-- What a client that holds the credential sends. -/
def authorization (c : Credential) : Text :=
  "Basic ".toList ++ Base64.encode (Utf8.encode (c.username ++ ':' :: c.password))

/-- User name and password in a header value. Exactly one colon parts them. -/
def read? (value : Text) : Option (Text × Text) := do
  let written ← dropScheme? "Basic" value
  let octets ← Base64.decode? (Text.trim written)
  let text ← Utf8.decode? octets
  if text.count ':' = 1 then Text.cut ':' text else none

/-- Does a header value show the credential? -/
def accepts (c : Credential) (value : Text) : Bool :=
  match read? value with
  | some (username, password) => username.eqFold c.username && password == c.password
  | none => false

end BasicAuth

end RtspServer
