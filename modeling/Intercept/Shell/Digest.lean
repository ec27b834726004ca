import Intercept.Bytes

/-!
# Digests

Numbers of a fixed length that stand for texts. A text is filled up to whole blocks, its length
last, and each block changes a row of words in many rounds. Words are numbers below a power of two.
-/

namespace Intercept.Shell.Digest

/-- The rows of so many bytes at the front of a text; the first argument bounds their number. -/
def blocks (size : Nat) : Nat → Bytes → List Bytes
  | 0, _ => []
  | _, [] => []
  | fuel + 1, text => text.take size :: blocks size fuel (text.drop size)

/-- The bytes of a number, the greatest first. -/
def bytesOf (count n : Nat) : Bytes :=
  ((List.range count).map fun index => UInt8.ofNat (n >>> (8 * index))).reverse

/-- The number of some bytes, the greatest first. -/
def numberOf (bytes : Bytes) : Nat := bytes.foldl (fun n b => n * 256 + b.toNat) 0

/-- A text filled up with a mark, zeros and its length in bits, to blocks of a size. -/
def filled (size lengthSize : Nat) (length : Nat → Bytes) (text : Bytes) : List Bytes :=
  let used := (text.length + 1 + lengthSize) % size
  let zeros := List.replicate ((size - used) % size) 0
  let whole := text ++ 0x80 :: zeros ++ length (8 * text.length)
  blocks size (whole.length + 1) whole

/-- The number with its lowest bits at the other end of a word. -/
def turnedRight (bits count n : Nat) : Nat :=
  (n >>> count ||| n <<< (bits - count)) % (1 <<< bits)

def turnedLeft (bits count n : Nat) : Nat := turnedRight bits (bits - count) n

/-- All bits of a word that are not set. -/
def inverted (bits n : Nat) : Nat := ((1 <<< bits) - 1) ^^^ n

/-- The bits of one number where a mask has them set, and else those of another. -/
def chosen (bits mask n m : Nat) : Nat := (mask &&& n) ^^^ (inverted bits mask &&& m)

/-- The bits that are set in most of three numbers. -/
def majority (a b c : Nat) : Nat := (a &&& b) ^^^ (a &&& c) ^^^ (b &&& c)

/-- The words of a row, each the sum of the words of two rows. -/
def added (bits : Nat) (first second : List Nat) : List Nat :=
  List.zipWith (fun n m => (n + m) % (1 <<< bits)) first second

/-- The greatest number below a bound, of so many bits, whose power is not above another one. -/
def root (degree n : Nat) : Nat → Nat
  | 0 => 0
  | bits + 1 =>
    let high := 2 * root degree (n >>> degree) bits
    if Nat.pow (high + 1) degree ≤ n then high + 1 else high

/-- The first bits behind the point of a root of a number. -/
def rootFraction (degree bits n : Nat) : Nat :=
  root degree (n <<< (degree * bits)) (bits + 8) % (1 <<< bits)

/-- The prime numbers up to a bound. -/
def primes (bound : Nat) : List Nat :=
  (List.range (bound + 1)).filter fun n =>
    2 ≤ n && (List.range n).all fun m => m < 2 || n % m ≠ 0

/-- What tells the digests of one family apart: the length of their words, the number of rounds, how
far words are turned, the first words, and how many bytes count in the end. -/
structure Family where
  bits : Nat
  rounds : Nat
  outer : Nat × Nat × Nat
  other : Nat × Nat × Nat
  /-- The last number of these is how far a word is moved and not turned. -/
  early : Nat × Nat × Nat
  late : Nat × Nat × Nat
  first : List Nat
  length : Nat

namespace Family

/-- Three turns of a word, put together. -/
def turns (f : Family) : Nat × Nat × Nat → Nat → Nat
  | (first, second, third), n =>
    turnedRight f.bits first n ^^^ turnedRight f.bits second n ^^^ turnedRight f.bits third n

/-- Two turns of a word and a move, put together. -/
def moves (f : Family) : Nat × Nat × Nat → Nat → Nat
  | (first, second, moved), n =>
    turnedRight f.bits first n ^^^ turnedRight f.bits second n ^^^ n >>> moved

/-- The words of all rounds: those of a block, and others that follow from them. -/
def schedule (f : Family) (block : Bytes) : Array Nat :=
  let own := ((blocks (f.bits / 8) 16 block).map numberOf).toArray
  (f.rounds - 16).fold (fun _ _ words =>
    let ago (back : Nat) : Nat := words.getD (words.size - back) 0
    words.push ((ago 16 + f.moves f.early (ago 15) + ago 7 + f.moves f.late (ago 2)) %
      (1 <<< f.bits))) own

/-- The words of a row after a round. -/
def round (f : Family) (state : List Nat) (constant word : Nat) : List Nat :=
  match state with
  | [a, b, c, d, e, g, h, i] =>
    let first := i + f.turns f.other e + chosen f.bits e g h + constant + word
    let second := f.turns f.outer a + majority a b c
    let cut (n : Nat) : Nat := n % (1 <<< f.bits)
    [cut (first + second), a, b, c, cut (d + first), e, g, h]
  | state => state

/-- The constants of the rounds. -/
def constants (f : Family) : List Nat :=
  ((primes 409).take f.rounds).map (rootFraction 3 f.bits)

/-- The digest of a text. -/
def digest (f : Family) (text : Bytes) : Bytes :=
  let constants := f.constants
  let lengthSize := f.bits / 4
  let step (state : List Nat) (block : Bytes) : List Nat :=
    let rounds := constants.zip (f.schedule block).toList
    let changed := rounds.foldl (fun state (constant, word) => f.round state constant word) state
    added f.bits state changed
  let last := (filled (2 * f.bits) lengthSize (bytesOf lengthSize) text).foldl step f.first
  (last.flatMap (bytesOf (f.bits / 8))).take f.length

end Family

/-- The family of words of 32 bits. -/
def short (first : List Nat) (length : Nat) : Family :=
  { bits := 32, rounds := 64, outer := (2, 13, 22), other := (6, 11, 25), early := (7, 18, 3),
    late := (17, 19, 10), first, length }

/-- The family of words of 64 bits. -/
def long (first : List Nat) (length : Nat) : Family :=
  { bits := 64, rounds := 80, outer := (28, 34, 39), other := (14, 18, 41), early := (1, 8, 7),
    late := (19, 61, 6), first, length }

/-- First words: the bits behind the points of square roots of eight primes. -/
def firstWords (bits : Nat) (primes : List Nat) : List Nat := primes.map (rootFraction 2 bits)

def sha256 : Bytes → Bytes := (short (firstWords 32 (primes 19)) 32).digest
def sha512 : Bytes → Bytes := (long (firstWords 64 (primes 19)) 64).digest
def sha384 : Bytes → Bytes := (long (firstWords 64 ((primes 53).drop 8)) 48).digest

def sha224 : Bytes → Bytes :=
  (short ((firstWords 64 ((primes 53).drop 8)).map (· % (1 <<< 32))) 28).digest

/-- The words of all rounds of the older digest. -/
def olderSchedule (block : Bytes) : Array Nat :=
  (64 : Nat).fold (fun _ _ words =>
    let ago (back : Nat) : Nat := words.getD (words.size - back) 0
    words.push (turnedLeft 32 1 (ago 3 ^^^ ago 8 ^^^ ago 14 ^^^ ago 16)))
    ((blocks 4 16 block).map numberOf).toArray

/-- The words of a row after a round of the older digest. -/
def olderRound (state : List Nat) (index word : Nat) : List Nat :=
  match state with
  | [a, b, c, d, e] =>
    let (mixed, constant) :=
      if index < 20 then (chosen 32 b c d, 0x5A827999)
      else if index < 40 then (b ^^^ c ^^^ d, 0x6ED9EBA1)
      else if index < 60 then (majority b c d, 0x8F1BBCDC)
      else (b ^^^ c ^^^ d, 0xCA62C1D6)
    [(turnedLeft 32 5 a + mixed + e + constant + word) % (1 <<< 32), a, turnedLeft 32 30 b, c, d]
  | state => state

def sha1 (text : Bytes) : Bytes :=
  let step (state : List Nat) (block : Bytes) : List Nat :=
    let words := (olderSchedule block).toList.zipIdx
    added 32 state (words.foldl (fun state (word, index) => olderRound state index word) state)
  let first := [0x67452301, 0xEFCDAB89, 0x98BADCFE, 0x10325476, 0xC3D2E1F0]
  ((filled 64 8 (bytesOf 8) text).foldl step first).flatMap (bytesOf 4)

/-- The constants of the rounds of the oldest digest: the first bits of sines. -/
def sines : List Nat :=
  [0xd76aa478, 0xe8c7b756, 0x242070db, 0xc1bdceee, 0xf57c0faf, 0x4787c62a, 0xa8304613, 0xfd469501,
    0x698098d8, 0x8b44f7af, 0xffff5bb1, 0x895cd7be, 0x6b901122, 0xfd987193, 0xa679438e, 0x49b40821,
    0xf61e2562, 0xc040b340, 0x265e5a51, 0xe9b6c7aa, 0xd62f105d, 0x02441453, 0xd8a1e681, 0xe7d3fbc8,
    0x21e1cde6, 0xc33707d6, 0xf4d50d87, 0x455a14ed, 0xa9e3e905, 0xfcefa3f8, 0x676f02d9, 0x8d2a4c8a,
    0xfffa3942, 0x8771f681, 0x6d9d6122, 0xfde5380c, 0xa4beea44, 0x4bdecfa9, 0xf6bb4b60, 0xbebfbc70,
    0x289b7ec6, 0xeaa127fa, 0xd4ef3085, 0x04881d05, 0xd9d4d039, 0xe6db99e5, 0x1fa27cf8, 0xc4ac5665,
    0xf4292244, 0x432aff97, 0xab9423a7, 0xfc93a039, 0x655b59c3, 0x8f0ccc92, 0xffeff47d, 0x85845dd1,
    0x6fa87e4f, 0xfe2ce6e0, 0xa3014314, 0x4e0811a1, 0xf7537e82, 0xbd3af235, 0x2ad7d2bb, 0xeb86d391]

/-- How far words are turned in the four parts of the oldest digest, one after the other. -/
def turnsOfPart (part : Nat) : List Nat :=
  [[7, 12, 17, 22], [5, 9, 14, 20], [4, 11, 16, 23], [6, 10, 15, 21]].getD part []

/-- The words of a row after a round of the oldest digest. -/
def oldestRound (words : Array Nat) (state : List Nat) (index constant : Nat) : List Nat :=
  match state with
  | [a, b, c, d] =>
    let (mixed, place) :=
      match index / 16 with
      | 0 => (chosen 32 b c d, index)
      | 1 => (chosen 32 d b c, 5 * index + 1)
      | 2 => (b ^^^ c ^^^ d, 3 * index + 5)
      | _ => (c ^^^ (b ||| inverted 32 d), 7 * index)
    let sum := (a + mixed + constant + words.getD (place % 16) 0) % (1 <<< 32)
    let turn := (turnsOfPart (index / 16)).getD (index % 4) 0
    [d, (b + turnedLeft 32 turn sum) % (1 <<< 32), b, c]
  | state => state

def md5 (text : Bytes) : Bytes :=
  let backwards (count n : Nat) : Bytes := (bytesOf count n).reverse
  let step (state : List Nat) (block : Bytes) : List Nat :=
    let words := ((blocks 4 16 block).map fun bytes => numberOf bytes.reverse).toArray
    added 32 state (sines.zipIdx.foldl
      (fun state (constant, index) => oldestRound words state index constant) state)
  let first := [0x67452301, 0xEFCDAB89, 0x98BADCFE, 0x10325476]
  ((filled 64 8 (backwards 8) text).foldl step first).flatMap (backwards 4)

/-- The remainder of a text as a polynomial over two elements, with its length behind it. -/
def remainder (text : Bytes) : Nat :=
  let polynomial := 0x04C11DB7
  let bit (crc : Nat) : Nat :=
    let moved := (crc <<< 1) % (1 <<< 32)
    if 0x80000000 ≤ crc then moved ^^^ polynomial else moved
  let step (crc : Nat) (b : UInt8) : Nat :=
    (8 : Nat).fold (fun _ _ crc => bit crc) (crc ^^^ b.toNat <<< 24)
  let length := (bytesOf 8 text.length).reverse
  let counted := (length.reverse.dropWhile (· = 0)).reverse
  inverted 32 ((text ++ counted).foldl step 0)

/-- The hexadecimal digits of some bytes. -/
def hexadecimal (bytes : Bytes) : Bytes :=
  let digit (n : Nat) : UInt8 := (if n < 10 then 0x30 + n else 0x57 + n).toUInt8
  bytes.flatMap fun b => [digit (b.toNat / 16), digit (b.toNat % 16)]

end Intercept.Shell.Digest
