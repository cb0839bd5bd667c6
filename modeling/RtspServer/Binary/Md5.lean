/-
RtspServer/Binary/Md5.lean

The MD5 message digest (RFC 1321), as Digest authentication uses it.  A message
is padded to whole blocks of sixty-four octets; each block is read as sixteen
words, least significant octet first, and mixed into a state of four words in
sixty-four rounds.
-/
import RtspServer.Text.Numeral

namespace RtspServer.Md5

/-- The four words that are mixed. -/
structure State where
  a : UInt32
  b : UInt32
  c : UInt32
  d : UInt32

/-- The state before the first block. -/
def State.initial : State := ⟨0x67452301, 0xefcdab89, 0x98badcfe, 0x10325476⟩

/-- How far each round rotates, in four groups of sixteen. -/
def shifts : List Nat := [7, 12, 17, 22, 5, 9, 14, 20, 4, 11, 16, 23, 6, 10, 15, 21]

/-- The constants of the rounds: the whole part of `2 ^ 32 * |sin i|` for `i` from 1. -/
def sines : List UInt32 :=
  [0xd76aa478, 0xe8c7b756, 0x242070db, 0xc1bdceee, 0xf57c0faf, 0x4787c62a, 0xa8304613, 0xfd469501,
   0x698098d8, 0x8b44f7af, 0xffff5bb1, 0x895cd7be, 0x6b901122, 0xfd987193, 0xa679438e, 0x49b40821,
   0xf61e2562, 0xc040b340, 0x265e5a51, 0xe9b6c7aa, 0xd62f105d, 0x02441453, 0xd8a1e681, 0xe7d3fbc8,
   0x21e1cde6, 0xc33707d6, 0xf4d50d87, 0x455a14ed, 0xa9e3e905, 0xfcefa3f8, 0x676f02d9, 0x8d2a4c8a,
   0xfffa3942, 0x8771f681, 0x6d9d6122, 0xfde5380c, 0xa4beea44, 0x4bdecfa9, 0xf6bb4b60, 0xbebfbc70,
   0x289b7ec6, 0xeaa127fa, 0xd4ef3085, 0x04881d05, 0xd9d4d039, 0xe6db99e5, 0x1fa27cf8, 0xc4ac5665,
   0xf4292244, 0x432aff97, 0xab9423a7, 0xfc93a039, 0x655b59c3, 0x8f0ccc92, 0xffeff47d, 0x85845dd1,
   0x6fa87e4f, 0xfe2ce6e0, 0xa3014314, 0x4e0811a1, 0xf7537e82, 0xbd3af235, 0x2ad7d2bb, 0xeb86d391]

/-- The word of four octets, least significant first. -/
def wordLE (o : Bytes) : UInt32 := UInt32.ofNat (o.foldr (fun x n => n * 256 + x.toNat) 0)

/-- The low `count` octets of a number, least significant first. -/
def octetsLE : Nat → Nat → Bytes
  | 0, _ => []
  | count + 1, n => UInt8.ofNat n :: octetsLE count (n / 256)

/-- Consecutive groups of `size` octets; octets that fill no group are left out. -/
def groups (size : Nat) : Nat → Bytes → List Bytes
  | 0, _ => []
  | count + 1, o => o.take size :: groups size count (o.drop size)

/-- A one bit, zeros up to eight octets short of a whole block, and the length in bits. -/
def pad (message : Bytes) : Bytes :=
  let zeros := (119 - message.length % 64) % 64
  message ++ 0x80 :: List.replicate zeros 0 ++ octetsLE 8 (message.length * 8)

/-- Rotate to the left. -/
def rotate (w : UInt32) (count : Nat) : UInt32 :=
  (w <<< UInt32.ofNat count) ||| (w >>> UInt32.ofNat (32 - count))

/-- One round: its mixing function, the word of the block it takes, its constant and rotation. -/
def round (block : List UInt32) (s : State) (i : Nat) : State :=
  let (f, g) := match i / 16 with
    | 0 => ((s.b &&& s.c) ||| (~~~s.b &&& s.d), i)
    | 1 => ((s.d &&& s.b) ||| (~~~s.d &&& s.c), (5 * i + 1) % 16)
    | 2 => (s.b ^^^ s.c ^^^ s.d, (3 * i + 5) % 16)
    | _ => (s.c ^^^ (s.b ||| ~~~s.d), (7 * i) % 16)
  let sum := f + s.a + sines.getD i 0 + block.getD g 0
  ⟨s.d, s.b + rotate sum (shifts.getD (i / 16 * 4 + i % 4) 0), s.b, s.c⟩

/-- Mix one block into the state. -/
def absorb (s : State) (block : Bytes) : State :=
  let words := (groups 4 16 block).map wordLE
  let mixed := (List.range 64).foldl (round words) s
  ⟨s.a + mixed.a, s.b + mixed.b, s.c + mixed.c, s.d + mixed.d⟩

/-- The digest of a message, sixteen octets. -/
def digest (message : Bytes) : Bytes :=
  let padded := pad message
  let s := (groups 64 (padded.length / 64) padded).foldl absorb State.initial
  [s.a, s.b, s.c, s.d].flatMap fun w => octetsLE 4 w.toNat

/-- The digest in hexadecimal. -/
def digestHex (message : Bytes) : Text := Text.hexBytes (digest message)

end RtspServer.Md5
