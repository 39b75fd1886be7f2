import Console7800.Cells
import Console7800.Text.Numeral

/-!
# MD5

The digest that names a cartridge image: 16 bytes, shown as 32 lower-case hexadecimal digits.
-/

namespace Console7800.Md5

structure State where
  a : UInt32 := 0x67452301
  b : UInt32 := 0xefcdab89
  c : UInt32 := 0x98badcfe
  d : UInt32 := 0x10325476

/-- The integer parts of 2^32 times the absolute sines of 1 to 64. -/
def sines : Array UInt32 :=
  #[
    0xd76aa478, 0xe8c7b756, 0x242070db, 0xc1bdceee, 0xf57c0faf, 0x4787c62a,
    0xa8304613, 0xfd469501, 0x698098d8, 0x8b44f7af, 0xffff5bb1, 0x895cd7be,
    0x6b901122, 0xfd987193, 0xa679438e, 0x49b40821, 0xf61e2562, 0xc040b340,
    0x265e5a51, 0xe9b6c7aa, 0xd62f105d, 0x02441453, 0xd8a1e681, 0xe7d3fbc8,
    0x21e1cde6, 0xc33707d6, 0xf4d50d87, 0x455a14ed, 0xa9e3e905, 0xfcefa3f8,
    0x676f02d9, 0x8d2a4c8a, 0xfffa3942, 0x8771f681, 0x6d9d6122, 0xfde5380c,
    0xa4beea44, 0x4bdecfa9, 0xf6bb4b60, 0xbebfbc70, 0x289b7ec6, 0xeaa127fa,
    0xd4ef3085, 0x04881d05, 0xd9d4d039, 0xe6db99e5, 0x1fa27cf8, 0xc4ac5665,
    0xf4292244, 0x432aff97, 0xab9423a7, 0xfc93a039, 0x655b59c3, 0x8f0ccc92,
    0xffeff47d, 0x85845dd1, 0x6fa87e4f, 0xfe2ce6e0, 0xa3014314, 0x4e0811a1,
    0xf7537e82, 0xbd3af235, 0x2ad7d2bb, 0xeb86d391
  ]

/-- How far each step rotates: four distances to a round, taken in turn. -/
def rotations : Array UInt32 := #[7, 12, 17, 22, 5, 9, 14, 20, 4, 11, 16, 23, 6, 10, 15, 21]

def rotateLeft (word distance : UInt32) : UInt32 :=
  word <<< distance ||| word >>> (32 - distance)

/-- The word stored low byte first at index `i`. -/
def wordAt (data : Bytes) (i : Nat) : UInt32 :=
  (data.getD i 0).toUInt32 ||| (data.getD (i + 1) 0).toUInt32 <<< 8 |||
    (data.getD (i + 2) 0).toUInt32 <<< 16 ||| (data.getD (i + 3) 0).toUInt32 <<< 24

/-- A word as four bytes, low byte first. -/
def wordBytes (word : UInt32) : List UInt8 :=
  [word.toUInt8, (word >>> 8).toUInt8, (word >>> 16).toUInt8, (word >>> 24).toUInt8]

/-- Step `i` of the 64 over the block that starts at `start`. -/
def step (data : Bytes) (start i : Nat) (s : State) : State :=
  let (mixed, index) :=
    if i < 16 then (s.b &&& s.c ||| ~~~s.b &&& s.d, i)
    else if i < 32 then (s.d &&& s.b ||| ~~~s.d &&& s.c, (5 * i + 1) % 16)
    else if i < 48 then (s.b ^^^ s.c ^^^ s.d, (3 * i + 5) % 16)
    else (s.c ^^^ (s.b ||| ~~~s.d), 7 * i % 16)
  let sum := mixed + s.a + sines.getD i 0 + wordAt data (start + 4 * index)
  ⟨s.d, s.b + rotateLeft sum (rotations.getD (i / 16 * 4 + i % 4) 0), s.b, s.c⟩

def block (data : Bytes) (start : Nat) (s : State) : State :=
  let t := Nat.fold 64 (fun i _ t => step data start i t) s
  ⟨s.a + t.a, s.b + t.b, s.c + t.c, s.d + t.d⟩

/-- The message with a one bit, zeros and its length in bits, in whole blocks of 64 bytes. -/
def padded (message : Bytes) : Bytes :=
  let zeros := (119 - message.size % 64) % 64
  let bits := (8 * message.size).toUInt64
  message.push 0x80 ++ Array.replicate zeros (0 : UInt8) ++ wordBytes bits.toUInt32 ++
    wordBytes (bits >>> 32).toUInt32

def digest (message : Bytes) : List UInt8 :=
  let data := padded message
  let s := Nat.fold (data.size / 64) (fun i _ s => block data (64 * i) s) {}
  wordBytes s.a ++ wordBytes s.b ++ wordBytes s.c ++ wordBytes s.d

theorem length_digest (message : Bytes) : (digest message).length = 16 := rfl

/-- The digest in hexadecimal. -/
def hexDigest (message : Bytes) : String := String.ofList ((digest message).flatMap Text.byteHex)

end Console7800.Md5
