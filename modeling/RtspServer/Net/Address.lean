/-
RtspServer/Net/Address.lean

Addresses of the two ends of a connection.  An IPv4 address is written as four
decimal octets.  An IPv6 address is written as eight hexadecimal groups, where
the first longest run of at least two zero groups shrinks to `::`, and an
address of the block `::ffff:0:0/96` shows the IPv4 address it carries.  A
socket address adds the port, with brackets around an IPv6 address.

An IPv6 address need not mean the same machine on every network, so a socket
address also names a zone by its number, after a percent sign and inside the
brackets.  Zone zero is the default one and is not written.
-/
import RtspServer.Binary.Word
import RtspServer.Text.Line
import RtspServer.Text.Numeral

namespace RtspServer

/-- An Internet address. -/
inductive IpAddress where
  | v4 (a b c d : UInt8)
  | v6 (groups : Vector UInt16 8)
  deriving DecidableEq, Repr

/-- An Internet address with a port. -/
structure SocketAddress where
  ip : IpAddress
  port : UInt16
  /-- The zone in which an IPv6 address is meant. -/
  zone : UInt32 := 0
  deriving DecidableEq, Repr

namespace IpAddress

/-! ### Writing -/

/-- Four octets with dots between them. -/
def dotted (a b c d : UInt8) : Text :=
  List.intercalate ['.'] ([a, b, c, d].map fun x => Text.decimal x.toNat)

/-- Hexadecimal groups with colons between them. -/
def colonGroups (groups : List UInt16) : Text :=
  List.intercalate [':'] (groups.map fun g => Nat.toDigits 16 g.toNat)

/-- How many zero groups stand at the front. -/
def zeroRun (groups : List UInt16) : Nat := (groups.takeWhile (· == 0)).length

/-- Start and length of the first longest run of zero groups. -/
def longestZeroRun (groups : List UInt16) : Nat × Nat :=
  (List.range groups.length).foldl (fun best i =>
    let len := zeroRun (groups.drop i)
    if best.2 < len then (i, len) else best) (0, 0)

/-- The written form of eight groups. -/
def groupsText (groups : List UInt16) : Text :=
  match groups with
  | [0, 0, 0, 0, 0, 0xFFFF, hi, lo] =>
    "::ffff:".toList ++ dotted (UInt8.ofNat (hi.toNat / 256)) (UInt8.ofNat hi.toNat)
      (UInt8.ofNat (lo.toNat / 256)) (UInt8.ofNat lo.toNat)
  | _ =>
    let (start, len) := longestZeroRun groups
    if 1 < len then
      colonGroups (groups.take start) ++ "::".toList ++ colonGroups (groups.drop (start + len))
    else colonGroups groups

/-- The written form of an address. -/
def text : IpAddress → Text
  | .v4 a b c d => dotted a b c d
  | .v6 groups => groupsText groups.toList

/-! ### Reading -/

/-- A decimal octet of at most three digits, with no needless zero in front. -/
def dottedOctet? (t : Text) : Option UInt8 :=
  if 3 < t.length || (1 < t.length && t.head? == some '0') then none
  else (Text.digits? 10 UInt8.size t).map UInt8.ofNat

/-- Four octets with dots between them. -/
def readV4? (t : Text) : Option (UInt8 × UInt8 × UInt8 × UInt8) :=
  match (t.splitOn '.').map dottedOctet? with
  | [some a, some b, some c, some d] => some (a, b, c, d)
  | _ => none

/-- One hexadecimal group of at most four digits. -/
def group? (t : Text) : Option UInt16 :=
  if 4 < t.length then none else (Text.digits? 16 UInt16.size t).map UInt16.ofNat

/-- Groups with colons between them; the last place may hold an IPv4 address, two groups wide. -/
def groups? (t : Text) : Option (List UInt16) :=
  if t.isEmpty then some []
  else
    let pieces := t.splitOn ':'
    let last := pieces.getLastD []
    match pieces.mapM group? with
    | some groups => some groups
    | none => do
      let front ← pieces.dropLast.mapM group?
      let (a, b, c, d) ← readV4? last
      some (front ++ [word16 a b, word16 c d])

/-- Eight groups, or fewer around one `::`, which stands for at least one zero group. -/
def readV6? (t : Text) : Option (List UInt16) :=
  match Text.cutAt "::".toList t with
  | none => groups? t
  | some (front, back) => do
    let before ← if front.contains '.' then none else groups? front
    let after ← groups? back
    if before.length + after.length < 8 then
      some (before ++ List.replicate (8 - before.length - after.length) 0 ++ after)
    else none

/-- An address in its written form. -/
def read? (t : Text) : Option IpAddress :=
  match readV4? t with
  | some (a, b, c, d) => some (.v4 a b c d)
  | none => do
    let groups ← readV6? t
    if h : groups.length = 8 then some (.v6 ⟨groups.toArray, by simpa using h⟩) else none

/-- The number of a zone: decimal digits only. -/
def zone? (t : Text) : Option UInt32 := (Text.digits? 10 UInt32.size t).map UInt32.ofNat

/-- An IPv6 address in its written form, with its zone if it names one. -/
def readZoned? (t : Text) : Option (IpAddress × UInt32) := do
  let (front, zone) ← match Text.cut '%' t with
    | some (front, digits) => (zone? digits).map fun zone => (front, zone)
    | none => some (t, 0)
  match ← read? front with
  | .v4 .. => none
  | ip => some (ip, zone)

end IpAddress

namespace SocketAddress

/-- The written form of a socket address. -/
def text (s : SocketAddress) : Text :=
  match s.ip with
  | .v4 .. => s.ip.text ++ ':' :: Text.decimal s.port.toNat
  | .v6 _ =>
    let zone := if s.zone = 0 then [] else '%' :: Text.decimal s.zone.toNat
    '[' :: s.ip.text ++ zone ++ "]:".toList ++ Text.decimal s.port.toNat

/-- A port: decimal digits only. -/
def port? (t : Text) : Option UInt16 := (Text.digits? 10 UInt16.size t).map UInt16.ofNat

/-- A socket address in its written form. -/
def read? (t : Text) : Option SocketAddress :=
  match t with
  | '[' :: rest => do
    let (inside, port) ← Text.cutAt "]:".toList rest
    let (ip, zone) ← IpAddress.readZoned? inside
    let port ← port? port
    some { ip, port, zone }
  | _ => do
    let (host, port) ← Text.cut ':' t
    let (a, b, c, d) ← IpAddress.readV4? host
    let port ← port? port
    some { ip := .v4 a b c d, port }

end SocketAddress

end RtspServer
