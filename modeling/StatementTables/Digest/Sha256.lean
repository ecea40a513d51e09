/-! # SHA-256 digests

`sha256` gives the digest of a list of bytes as hexadecimal digits.  The bytes, followed by a one
bit, zeros and their number of bits, are cut into blocks of sixteen words; each block is extended to
a schedule of sixty-four words, and every word of it stirs the eight words of the state once. -/

namespace StatementTables.Digest

/-- The eight words that are stirred. -/
structure State where
  a : UInt32
  b : UInt32
  c : UInt32
  d : UInt32
  e : UInt32
  f : UInt32
  g : UInt32
  h : UInt32
  deriving DecidableEq, Repr

namespace State

def initial : State :=
  ⟨0x6a09e667, 0xbb67ae85, 0x3c6ef372, 0xa54ff53a, 0x510e527f, 0x9b05688c, 0x1f83d9ab, 0x5be0cd19⟩

def add (s t : State) : State :=
  ⟨s.a + t.a, s.b + t.b, s.c + t.c, s.d + t.d, s.e + t.e, s.f + t.f, s.g + t.g, s.h + t.h⟩

def words (s : State) : List UInt32 :=
  [s.a, s.b, s.c, s.d, s.e, s.f, s.g, s.h]

end State

/-- The constant of each round. -/
def roundConstants : List UInt32 :=
  [0x428a2f98, 0x71374491, 0xb5c0fbcf, 0xe9b5dba5, 0x3956c25b, 0x59f111f1, 0x923f82a4, 0xab1c5ed5,
   0xd807aa98, 0x12835b01, 0x243185be, 0x550c7dc3, 0x72be5d74, 0x80deb1fe, 0x9bdc06a7, 0xc19bf174,
   0xe49b69c1, 0xefbe4786, 0x0fc19dc6, 0x240ca1cc, 0x2de92c6f, 0x4a7484aa, 0x5cb0a9dc, 0x76f988da,
   0x983e5152, 0xa831c66d, 0xb00327c8, 0xbf597fc7, 0xc6e00bf3, 0xd5a79147, 0x06ca6351, 0x14292967,
   0x27b70a85, 0x2e1b2138, 0x4d2c6dfc, 0x53380d13, 0x650a7354, 0x766a0abb, 0x81c2c92e, 0x92722c85,
   0xa2bfe8a1, 0xa81a664b, 0xc24b8b70, 0xc76c51a3, 0xd192e819, 0xd6990624, 0xf40e3585, 0x106aa070,
   0x19a4c116, 0x1e376c08, 0x2748774c, 0x34b0bcb5, 0x391c0cb3, 0x4ed8aa4a, 0x5b9cca4f, 0x682e6ff3,
   0x748f82ee, 0x78a5636f, 0x84c87814, 0x8cc70208, 0x90befffa, 0xa4506ceb, 0xbef9a3f7, 0xc67178f2]

/-- The bits of a word moved to the right, around its end. -/
def rotate (x n : UInt32) : UInt32 := (x >>> n) ||| (x <<< (32 - n))

/-! ### Blocks -/

/-- Bytes with what is added to fill the last block. -/
def pad (bytes : List UInt8) : List UInt8 :=
  let zeros := (119 - bytes.length % 64) % 64
  let bits := 8 * bytes.length
  bytes ++ 0x80 :: List.replicate zeros 0 ++
    ((List.range 8).reverse.map fun i => UInt8.ofNat (bits / Nat.pow 256 i))

/-- Four bytes each as a word, the most significant first. -/
def wordsOf : List UInt8 → List UInt32
  | a :: b :: c :: d :: rest =>
    ((a.toUInt32 <<< 24) ||| (b.toUInt32 <<< 16) ||| (c.toUInt32 <<< 8) ||| d.toUInt32) ::
      wordsOf rest
  | _ => []

/-- The word that follows others in a schedule, of which the latest is in front. -/
def nextWord (latest : List UInt32) : UInt32 :=
  let small0 (x : UInt32) : UInt32 := rotate x 7 ^^^ rotate x 18 ^^^ (x >>> 3)
  let small1 (x : UInt32) : UInt32 := rotate x 17 ^^^ rotate x 19 ^^^ (x >>> 10)
  small1 (latest.getD 1 0) + latest.getD 6 0 + small0 (latest.getD 14 0) + latest.getD 15 0

/-- A schedule with more words, the latest in front. -/
def extend : Nat → List UInt32 → List UInt32
  | 0, latest => latest
  | n + 1, latest => extend n (nextWord latest :: latest)

/-- The schedule of a block of sixteen words. -/
def schedule (block : List UInt32) : List UInt32 :=
  (extend 48 block.reverse).reverse

/-! ### Stirring -/

/-- One round with a word of the schedule and its constant. -/
def round (s : State) (word constant : UInt32) : State :=
  let big1 := rotate s.e 6 ^^^ rotate s.e 11 ^^^ rotate s.e 25
  let choice := (s.e &&& s.f) ^^^ ((s.e ^^^ 0xffffffff) &&& s.g)
  let first := s.h + big1 + choice + constant + word
  let big0 := rotate s.a 2 ^^^ rotate s.a 13 ^^^ rotate s.a 22
  let majority := (s.a &&& s.b) ^^^ (s.a &&& s.c) ^^^ (s.b &&& s.c)
  ⟨first + (big0 + majority), s.a, s.b, s.c, s.d + first, s.e, s.f, s.g⟩

/-- The state after a block. -/
def compress (s : State) (block : List UInt32) : State :=
  s.add (((schedule block).zip roundConstants).foldl (fun t w => round t w.1 w.2) s)

/-- The state after all blocks of some words; `count` is their number. -/
def compressAll : Nat → State → List UInt32 → State
  | 0, s, _ => s
  | count + 1, s, words => compressAll count (compress s (words.take 16)) (words.drop 16)

/-! ### Digests -/

/-- The hexadecimal digits of a word. -/
def hexWord (x : UInt32) : List Char :=
  (List.range 8).reverse.map fun i => Nat.digitChar (x.toNat / Nat.pow 16 i % 16)

/-- The digest of a list of bytes. -/
def sha256 (bytes : List UInt8) : String :=
  let words := wordsOf (pad bytes)
  .ofList ((compressAll (words.length / 16) .initial words).words.flatMap hexWord)

end StatementTables.Digest
