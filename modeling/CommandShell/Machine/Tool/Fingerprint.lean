import CommandShell.Machine.Tool.Basic

/-!
# Fingerprints

A number of 128 bits for some bytes that tells nothing about them, but is the same for the same
bytes: the MD5 digest. It scatters what is put in an order of no meaning.
-/

namespace CommandShell.Machine.Tool.Fingerprint

/-- The words that a fingerprint consists of. -/
structure Words where
  a : UInt32
  b : UInt32
  c : UInt32
  d : UInt32

/-- The words of the fingerprint to which nothing was added. -/
def Words.start : Words := ⟨0x67452301, 0xefcdab89, 0x98badcfe, 0x10325476⟩

/-- The sum of words, one by one. -/
def Words.plus (x y : Words) : Words := ⟨x.a + y.a, x.b + y.b, x.c + y.c, x.d + y.d⟩

/-- The four bytes of a word, the least one first. -/
def bytesOf (w : UInt32) : List UInt8 :=
  [w.toUInt8, (w >>> 8).toUInt8, (w >>> 16).toUInt8, (w >>> 24).toUInt8]

/-- The bytes of all words. -/
def Words.bytes (w : Words) : List UInt8 :=
  bytesOf w.a ++ bytesOf w.b ++ bytesOf w.c ++ bytesOf w.d

/-- What is added in each step: the first bits of the sines of the whole numbers. -/
def sines : Array UInt32 := #[
  0xd76aa478, 0xe8c7b756, 0x242070db, 0xc1bdceee, 0xf57c0faf, 0x4787c62a, 0xa8304613, 0xfd469501,
  0x698098d8, 0x8b44f7af, 0xffff5bb1, 0x895cd7be, 0x6b901122, 0xfd987193, 0xa679438e, 0x49b40821,
  0xf61e2562, 0xc040b340, 0x265e5a51, 0xe9b6c7aa, 0xd62f105d, 0x02441453, 0xd8a1e681, 0xe7d3fbc8,
  0x21e1cde6, 0xc33707d6, 0xf4d50d87, 0x455a14ed, 0xa9e3e905, 0xfcefa3f8, 0x676f02d9, 0x8d2a4c8a,
  0xfffa3942, 0x8771f681, 0x6d9d6122, 0xfde5380c, 0xa4beea44, 0x4bdecfa9, 0xf6bb4b60, 0xbebfbc70,
  0x289b7ec6, 0xeaa127fa, 0xd4ef3085, 0x04881d05, 0xd9d4d039, 0xe6db99e5, 0x1fa27cf8, 0xc4ac5665,
  0xf4292244, 0x432aff97, 0xab9423a7, 0xfc93a039, 0x655b59c3, 0x8f0ccc92, 0xffeff47d, 0x85845dd1,
  0x6fa87e4f, 0xfe2ce6e0, 0xa3014314, 0x4e0811a1, 0xf7537e82, 0xbd3af235, 0x2ad7d2bb, 0xeb86d391]

/-- By how many bits words are rotated in the steps of each of the four rounds, in turn. -/
def turns : Array (Array UInt32) := #[#[7, 12, 17, 22], #[5, 9, 14, 20], #[4, 11, 16, 23],
  #[6, 10, 15, 21]]

/-- A word whose bits have moved to the left, those that fall out to the other end. -/
def rotated (w : UInt32) (count : UInt32) : UInt32 := (w <<< count) ||| (w >>> (32 - count))

/-- The mixture of three words in a round. -/
def mixed (round : Nat) (w : Words) : UInt32 :=
  match round with
  | 0 => (w.b &&& w.c) ||| (~~~w.b &&& w.d)
  | 1 => (w.d &&& w.b) ||| (~~~w.d &&& w.c)
  | 2 => w.b ^^^ w.c ^^^ w.d
  | _ => w.c ^^^ (w.b ||| ~~~w.d)

/-- The number of the word of a block that is added in a step. -/
def place (step : Nat) : Nat :=
  match step / 16 with
  | 0 => step
  | 1 => (5 * step + 1) % 16
  | 2 => (3 * step + 5) % 16
  | _ => (7 * step) % 16

/-- The number of bytes in a block. -/
def blockLength : Nat := 64

/-- The word at some place of the block that begins at an offset. -/
def wordAt (bytes : ByteArray) (offset place : Nat) : UInt32 :=
  (List.range 4).foldr (fun i w => w <<< 8 ||| (bytes.get! (offset + 4 * place + i)).toUInt32) 0

/-- One step. -/
def step (bytes : ByteArray) (offset : Nat) (w : Words) (n : Nat) : Words :=
  let sum := w.a + mixed (n / 16) w + (sines[n]?).getD 0 + wordAt bytes offset (place n)
  let count := (((turns[n / 16]?).getD #[])[n % 4]?).getD 0
  ⟨w.d, w.b + rotated sum count, w.b, w.c⟩

/-- Words to which the block was added that begins at an offset. -/
def addBlock (bytes : ByteArray) (w : Words) (offset : Nat) : Words :=
  w.plus ((List.range blockLength).foldl (step bytes offset) w)

/-- The bytes of a number, the least one first. -/
def numberBytes (count : Nat) (n : Nat) : List UInt8 :=
  (List.range count).map fun i => (n >>> (8 * i)).toUInt8

/-- Bytes that are made whole blocks: a mark, zeros and their number in bits stand behind them. -/
def filled (bytes : ByteArray) : ByteArray :=
  let zeros := blockLength - 1 - (bytes.size + 8) % blockLength
  pushAll bytes (0x80 :: List.replicate zeros 0 ++ numberBytes 8 (8 * bytes.size))

/-- The fingerprint of some bytes. -/
def fingerprint (bytes : ByteArray) : ByteArray :=
  let blocks := filled bytes
  let offsets := (List.range (blocks.size / blockLength)).map (· * blockLength)
  pack (offsets.foldl (addBlock blocks) .start).bytes

end CommandShell.Machine.Tool.Fingerprint
