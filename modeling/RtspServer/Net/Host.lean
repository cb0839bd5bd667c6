/-
RtspServer/Net/Host.lean

Where to listen, as the machine that a service runs on understands it.

The place is written as host and port, around the last colon.  The host is an
Internet address or a name to look up.  Besides its usual form an IPv4 address
may have fewer than four numbers, the last of which fills the octets that are
left, and each number may be octal after a leading zero or hexadecimal after
`0x`: `127.1`, `0x7f000001` and `017700000001` are all `127.0.0.1`.
-/
import RtspServer.Fault
import RtspServer.Net.Address

namespace RtspServer

namespace IpAddress

/-- The first number too large for any IPv4 address. -/
def v4Limit : Nat := UInt32.size

/-- One number of an IPv4 address, in octal, hexadecimal or decimal. -/
def number? : Text → Option Nat
  | '0' :: 'x' :: digits | '0' :: 'X' :: digits => Text.digits? 16 v4Limit digits
  | '0' :: digits => Text.digits? 8 v4Limit ('0' :: digits)
  | digits => Text.digits? 10 v4Limit digits

/-- One to four numbers with dots between them: one octet each, and the last one the rest. -/
def readNumbers? (t : Text) : Option IpAddress := do
  let numbers ← (t.splitOn '.').mapM number?
  let octets := numbers.dropLast
  let last ← numbers.getLast?
  let places := 4 - octets.length
  if octets.length < 4 && octets.all (· < 256) && last < 1 <<< (8 * places) then
    let n := octets.foldl (fun n octet => n * 256 + octet) 0 * 1 <<< (8 * places) + last
    some (.v4 (UInt8.ofNat (n / 16777216)) (UInt8.ofNat (n / 65536)) (UInt8.ofNat (n / 256))
      (UInt8.ofNat n))
  else none

/-! ### Examples of the rules -/

example : readNumbers? "127.0.0.1".toList = some (.v4 127 0 0 1) := by decide
example : readNumbers? "127.1".toList = some (.v4 127 0 0 1) := by decide
example : readNumbers? "0x7f.017.258".toList = some (.v4 127 15 1 2) := by decide
example : readNumbers? "4294967296".toList = none := by decide
example : readNumbers? "256.1".toList = none := by decide
example : readNumbers? "08".toList = none := by decide

end IpAddress

/-- What a service asks the machine it runs on. -/
structure Host where
  /-- The address of a name, or why it has none. -/
  resolve : Text → Except Text IpAddress
  /-- Why nobody can listen on an address, if nobody can. -/
  bindFault? : SocketAddress → Option Text := fun _ => none
  /-- The port that is taken if any will do. -/
  freePort : UInt16

namespace Host

/-- The address of a host that is given by its address or by a name, and its zone. -/
def address (host : Host) (t : Text) : Except Fault (IpAddress × UInt32) :=
  if t.contains '\x00' then .error (.io "file name contained an unexpected NUL byte".toList)
  else
    match IpAddress.readNumbers? t, IpAddress.readZoned? t with
    | some ip, _ => .ok (ip, 0)
    | none, some found => .ok found
    | none, none =>
      match host.resolve t with
      | .ok ip => .ok (ip, 0)
      | .error detail =>
        .error (.io ("failed to lookup address information: ".toList ++ detail))

/-- A place to listen, in its written form. -/
def listenAddress (host : Host) (t : Text) : Except Fault SocketAddress :=
  match SocketAddress.read? t with
  | some address => .ok address
  | none =>
    if t.contains ':' then
      let port := Text.afterLast ':' t
      match Text.word16? port with
      | some number =>
        (host.address (t.take (t.length - port.length - 1))).map fun found =>
          { ip := found.1, port := number, zone := found.2 }
      | none => .error (.io "invalid port value".toList)
    else .error (.io "invalid socket address".toList)

end Host

end RtspServer
