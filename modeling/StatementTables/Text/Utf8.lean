/-! # Reading text from bytes

Files are texts in UTF-8, but not always cleanly so.  `decodeLossy` reads any bytes: a sequence of
bytes that is the start of a character but not a whole one, and a byte that starts none, become one
replacement character each. -/

namespace StatementTables.Text

/-- Whether a byte can only continue a character. -/
def isContinuation (b : UInt8) : Bool := 0x80 ≤ b && b ≤ 0xBF

/-- For the first byte of a character of several bytes: the bits that it holds, the bounds of the
second byte, and how many bytes follow the second. -/
def leadByte? (b : UInt8) : Option (Nat × UInt8 × UInt8 × Nat) :=
  if 0xC2 ≤ b && b ≤ 0xDF then some (b.toNat - 0xC0, 0x80, 0xBF, 0)
  else if b = 0xE0 then some (0, 0xA0, 0xBF, 1)
  else if b = 0xED then some (0xD, 0x80, 0x9F, 1)
  else if 0xE1 ≤ b && b ≤ 0xEF then some (b.toNat - 0xE0, 0x80, 0xBF, 1)
  else if b = 0xF0 then some (0, 0x90, 0xBF, 2)
  else if 0xF1 ≤ b && b ≤ 0xF3 then some (b.toNat - 0xF0, 0x80, 0xBF, 2)
  else if b = 0xF4 then some (4, 0x80, 0x8F, 2)
  else none

/-- The code with the bits of some more bytes that continue the character; none when there are not
that many.  With it comes the rest of the bytes. -/
def readContinuations (code : Nat) : Nat → List UInt8 → Option Nat × List UInt8
  | 0, bytes => (some code, bytes)
  | _ + 1, [] => (none, [])
  | n + 1, b :: bytes =>
    if isContinuation b then readContinuations (64 * code + (b.toNat - 0x80)) n bytes
    else (none, b :: bytes)

/-- The character that starts with a byte, or the replacement character, and the rest. -/
def readCharacter (first : UInt8) (bytes : List UInt8) : Char × List UInt8 :=
  let replacement := '\uFFFD'
  if first < 0x80 then (Char.ofNat first.toNat, bytes)
  else
    match leadByte? first, bytes with
    | some (bits, low, high, more), b :: rest =>
      if low ≤ b && b ≤ high then
        match readContinuations (64 * bits + (b.toNat - 0x80)) more rest with
        | (some code, rest) => (Char.ofNat code, rest)
        | (none, rest) => (replacement, rest)
      else (replacement, bytes)
    | _, _ => (replacement, bytes)

theorem length_readContinuations (code n : Nat) (bytes : List UInt8) :
    (readContinuations code n bytes).2.length ≤ bytes.length := by
  fun_induction readContinuations code n bytes with
  | case1 => simp
  | case2 => simp
  | case3 _ _ _ _ _ ih => simp only [List.length_cons]; omega
  | case4 => simp

theorem length_readCharacter (first : UInt8) (bytes : List UInt8) :
    (readCharacter first bytes).2.length ≤ bytes.length := by
  unfold readCharacter
  split
  · simp
  · split
    · rename_i bits low high more b rest _
      have := length_readContinuations (64 * bits + (b.toNat - 0x80)) more rest
      split
      · split <;> simp_all <;> omega
      · simp
    · simp

/-- The characters that bytes stand for. -/
def decodeLossy : List UInt8 → List Char
  | [] => []
  | b :: bytes =>
    (readCharacter b bytes).1 :: decodeLossy (readCharacter b bytes).2
termination_by bytes => bytes.length
decreasing_by
  have := length_readCharacter b bytes
  simp only [List.length_cons]
  omega

end StatementTables.Text
