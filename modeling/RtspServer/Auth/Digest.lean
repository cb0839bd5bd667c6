/-
RtspServer/Auth/Digest.lean

Digest authentication (RFC 2617, section 3) with MD5.  A client proves that it
knows the password by a hash over the credential, a nonce and the verb and
address it signs.  The nonce is chosen once and may be used again.

The parameters of a header value are separated by commas; a comma between double
quotes separates nothing.
-/
import RtspServer.Auth.Credential
import RtspServer.Binary.Md5
import RtspServer.Text.Line
import RtspServer.Text.Utf8

namespace RtspServer

/-- A credential with the nonce and the name of the algorithm that clients are told. -/
structure DigestKey where
  credential : Credential
  nonce : Text
  algorithm : Option Text := none
  deriving DecidableEq, Repr

namespace DigestKey

/-- A key with a nonce made of a random number of 128 bits. -/
def fresh (credential : Credential) (random : Nat) : DigestKey :=
  { credential, nonce := Text.hexLower 32 random }

/-- The MD5 digest of a text in hexadecimal. -/
def hash (t : Text) : Text := Md5.digestHex (Utf8.encode t)

/-- Texts with colons between them. -/
def joined (parts : List Text) : Text := List.intercalate [':'] parts

/-- The proof for a user name, a verb and an address. -/
def proof (k : DigestKey) (username verb target : Text) : Text :=
  let who := hash (joined [username, k.credential.realm, k.credential.password])
  let what := hash (joined [verb, target])
  hash (joined [who, k.nonce, what])

/-- A parameter with its value in quotes. -/
def parameter (name : String) (value : Text) : Text := name.toList ++ '=' :: inQuotes value

/-- The algorithm as a last parameter, if there is one. -/
def algorithmParameter (k : DigestKey) : Text :=
  match k.algorithm with
  | some name => ", ".toList ++ parameter "algorithm" name
  | none => []

/-- What a client without authorization is told. -/
def challenge (k : DigestKey) : Text :=
  "Digest ".toList ++ parameter "realm" k.credential.realm ++ ", ".toList
    ++ parameter "nonce" k.nonce ++ k.algorithmParameter ++ ", stale=\"FALSE\"".toList

/-- What a client that holds the key sends with a verb and an address. -/
def authorization (k : DigestKey) (verb target : Text) : Text :=
  "Digest ".toList ++ parameter "username" k.credential.username ++ ", ".toList
    ++ parameter "realm" k.credential.realm ++ ", ".toList
    ++ parameter "nonce" k.nonce ++ ", ".toList
    ++ parameter "uri" target ++ ", ".toList
    ++ parameter "response" (k.proof k.credential.username verb target) ++ k.algorithmParameter

/-! ### Reading parameters -/

/-- The pieces between commas that stand outside quotes; `quoted` says where the text starts. -/
def splitUnquoted (quoted : Bool) : Text → List Text
  | [] => [[]]
  | c :: t =>
    if c = ',' ∧ quoted = false then [] :: splitUnquoted quoted t
    else match splitUnquoted (if c = '"' then !quoted else quoted) t with
      | [] => [[c]]
      | piece :: rest => (c :: piece) :: rest

/-- Without any double quotes at the ends. -/
def trimQuotes (t : Text) : Text :=
  ((t.dropWhile (· == '"')).reverse.dropWhile (· == '"')).reverse

/-- A name and a value with an equals sign between them. -/
def readParameter? (piece : Text) : Option (Text × Text) :=
  (Text.cut '=' piece).map fun (name, value) => (Text.trim name, trimQuotes (Text.trim value))

/-- The parameters of a header value, in order. -/
def readParameters (t : Text) : List (Text × Text) :=
  (splitUnquoted false t).filterMap readParameter?

/-- The first value of a name, in any ASCII case. -/
def value? (parameters : List (Text × Text)) (name : String) : Option Text :=
  (parameters.find? fun p => p.1.eqFold name.toList).map (·.2)

/-- Does a header value prove knowledge of the key for a verb?
Realm and nonce must be there, but their values are not looked at. -/
def accepts (k : DigestKey) (verb value : Text) : Bool :=
  match (dropScheme? "Digest" value).map readParameters with
  | none => false
  | some parameters =>
    match value? parameters "username", value? parameters "realm", value? parameters "nonce",
        value? parameters "uri", value? parameters "response" with
    | some username, some _, some _, some target, some response =>
      username.eqFold k.credential.username && (k.proof username verb target).eqFold response
    | _, _, _, _, _ => false

end DigestKey

end RtspServer
