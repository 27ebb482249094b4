/-!
# MD5

The digest of a list of bytes, as 32 hexadecimal digits.
-/

namespace GuardedSql.Md5

/-- The amounts by which the steps rotate, four for each round. -/
def rotations : List UInt32 :=
  let round (a b c d : UInt32) := (List.replicate 4 [a, b, c, d]).flatten
  round 7 12 17 22 ++ round 5 9 14 20 ++ round 4 11 16 23 ++ round 6 10 15 21

/-- The constants of the steps: the whole parts of `2 ^ 32 · |sin (i + 1)|`. -/
def constants : List UInt32 := [
  0xd76aa478, 0xe8c7b756, 0x242070db, 0xc1bdceee, 0xf57c0faf, 0x4787c62a, 0xa8304613, 0xfd469501,
  0x698098d8, 0x8b44f7af, 0xffff5bb1, 0x895cd7be, 0x6b901122, 0xfd987193, 0xa679438e, 0x49b40821,
  0xf61e2562, 0xc040b340, 0x265e5a51, 0xe9b6c7aa, 0xd62f105d, 0x02441453, 0xd8a1e681, 0xe7d3fbc8,
  0x21e1cde6, 0xc33707d6, 0xf4d50d87, 0x455a14ed, 0xa9e3e905, 0xfcefa3f8, 0x676f02d9, 0x8d2a4c8a,
  0xfffa3942, 0x8771f681, 0x6d9d6122, 0xfde5380c, 0xa4beea44, 0x4bdecfa9, 0xf6bb4b60, 0xbebfbc70,
  0x289b7ec6, 0xeaa127fa, 0xd4ef3085, 0x04881d05, 0xd9d4d039, 0xe6db99e5, 0x1fa27cf8, 0xc4ac5665,
  0xf4292244, 0x432aff97, 0xab9423a7, 0xfc93a039, 0x655b59c3, 0x8f0ccc92, 0xffeff47d, 0x85845dd1,
  0x6fa87e4f, 0xfe2ce6e0, 0xa3014314, 0x4e0811a1, 0xf7537e82, 0xbd3af235, 0x2ad7d2bb, 0xeb86d391]

structure State where
  a : UInt32
  b : UInt32
  c : UInt32
  d : UInt32

def initial : State := ⟨0x67452301, 0xefcdab89, 0x98badcfe, 0x10325476⟩

def rotateLeft (x n : UInt32) : UInt32 :=
  (x <<< n) ||| (x >>> (32 - n))

/-- What step `i` mixes of the state, and the number of the word that it adds. -/
def mix (i : Nat) (s : State) : UInt32 × Nat :=
  if i < 16 then ((s.b &&& s.c) ||| (~~~s.b &&& s.d), i)
  else if i < 32 then ((s.d &&& s.b) ||| (~~~s.d &&& s.c), (5 * i + 1) % 16)
  else if i < 48 then (s.b ^^^ s.c ^^^ s.d, (3 * i + 5) % 16)
  else (s.c ^^^ (s.b ||| ~~~s.d), 7 * i % 16)

def step (words : Array UInt32) (s : State) (i : Nat) (constant rotation : UInt32) : State :=
  let (mixed, word) := mix i s
  ⟨s.d, s.b + rotateLeft (s.a + mixed + constant + words.getD word 0) rotation, s.b, s.c⟩

/-- The state after a block of sixteen words. -/
def block (s : State) (words : Array UInt32) : State :=
  let steps := (constants.zip rotations).zipIdx
  let t := steps.foldl (fun t ((constant, rotation), i) => step words t i constant rotation) s
  ⟨s.a + t.a, s.b + t.b, s.c + t.c, s.d + t.d⟩

/-- The low `n` bytes of a number, the lowest first. -/
def littleEndian (n : Nat) (x : Nat) : List UInt8 :=
  (List.range n).map fun i => (x / Nat.pow 256 i % 256).toUInt8

/-- The message with a one bit, zeros and its length in bits, a whole number of blocks. -/
def pad (message : List UInt8) : List UInt8 :=
  let zeros := (119 - message.length % 64) % 64
  message ++ 0x80 :: List.replicate zeros 0 ++ littleEndian 8 (8 * message.length)

/-- The bytes as words of four, the lowest byte first. -/
def toWords : List UInt8 → List UInt32
  | a :: b :: c :: d :: rest =>
    (a.toUInt32 ||| b.toUInt32 <<< 8 ||| c.toUInt32 <<< 16 ||| d.toUInt32 <<< 24) :: toWords rest
  | _ => []

/-- The words in blocks of sixteen; at most `n` of them. -/
def toBlocks : (n : Nat) → List UInt32 → List (Array UInt32)
  | 0, _ => []
  | n + 1, words => if words.isEmpty then [] else (words.take 16).toArray :: toBlocks n (words.drop 16)

def digest (message : List UInt8) : List UInt8 :=
  let words := toWords (pad message)
  let s := (toBlocks words.length words).foldl block initial
  [s.a, s.b, s.c, s.d].flatMap fun word => littleEndian 4 word.toNat

/-- The hexadecimal digits of a byte. -/
def hexDigits (byte : UInt8) : List Char :=
  [Nat.digitChar (byte.toNat / 16), Nat.digitChar (byte.toNat % 16)]

/-- The digest of a text's UTF-8 bytes, in lower case hexadecimal digits. -/
def hex (text : String) : List Char :=
  (digest text.toUTF8.toList).flatMap hexDigits

theorem length_hex (text : String) : (hex text).length = 32 := by
  simp [hex, digest, littleEndian, hexDigits, List.range, List.range.loop]

end GuardedSql.Md5
