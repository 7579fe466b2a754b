import Wikidown.Charset.Reading

/-!
# UTF-8

The shortest form of each character in one to four bytes, and its reading. A character of more than
one byte has a first byte that fixes the number of bytes and the range of the second; all others
stand between `80` and `BF`.
-/

namespace Wikidown.Utf8

/-- The byte of a number below 256. -/
def byte (n : Nat) : UInt8 :=
  UInt8.ofNat n

/-- The bytes of a character. -/
def encodeChar (c : Char) : Bytes :=
  let n := c.toNat
  if n < 0x80 then [byte n]
  else if n < 0x800 then [byte (0xC0 + n / 64), byte (0x80 + n % 64)]
  else if n < 0x10000 then
    [byte (0xE0 + n / 4096), byte (0x80 + n / 64 % 64), byte (0x80 + n % 64)]
  else
    [byte (0xF0 + n / 262144), byte (0x80 + n / 4096 % 64), byte (0x80 + n / 64 % 64),
      byte (0x80 + n % 64)]

/-- The bytes of a text. -/
def encode (s : Text) : Bytes :=
  s.flatMap encodeChar

/-- What a first byte says: how many bytes follow, between which bounds the next one lies, and the
high bits of the character. -/
def lead? (b : Nat) : Option (Nat × Nat × Nat × Nat) :=
  if b < 0xC2 then none
  else if b < 0xE0 then some (1, 0x80, 0xBF, b % 32)
  else if b = 0xE0 then some (2, 0xA0, 0xBF, 0)
  else if b = 0xED then some (2, 0x80, 0x9F, 13)
  else if b < 0xF0 then some (2, 0x80, 0xBF, b % 16)
  else if b = 0xF0 then some (3, 0x90, 0xBF, 0)
  else if b < 0xF4 then some (3, 0x80, 0xBF, b % 8)
  else if b = 0xF4 then some (3, 0x80, 0x8F, 4)
  else none

/-- Reads `n` more bytes, the next of them between `low` and `high`, when `k` have been read and
the character's bits so far are `bits`. -/
def readTail : (n low high bits k : Nat) → Bytes → Reading Char
  | 0, _, _, bits, k, _ => .chars [Char.ofNat bits] k
  | _ + 1, _, _, _, k, [] => .flaw .unexpectedEnd (k + 1)
  | n + 1, low, high, bits, k, c :: r =>
    if low ≤ c.toNat ∧ c.toNat ≤ high then
      readTail n 0x80 0xBF (bits * 64 + c.toNat % 64) (k + 1) r
    else .flaw .invalidContinuation (k + 1)

/-- The character at the front of some bytes. -/
def next (b : UInt8) (r : Bytes) : Reading Char :=
  if b.toNat < 0x80 then .chars [Char.ofNat b.toNat] 0 else
  match lead? b.toNat with
  | none => .flaw .invalidStart 1
  | some (n, low, high, bits) => readTail n low high bits 0 r

/-- The text of some bytes. -/
def decode (bs : Bytes) : Except DecodeError Text :=
  decodeWith next 0 bs

/-- The byte order mark in UTF-8. -/
def mark : Bytes :=
  [0xEF, 0xBB, 0xBF]

/-- The text of some bytes without the byte order mark in front; places count from behind it. -/
def decodeMarked (bs : Bytes) : Except DecodeError Text :=
  if mark.isPrefixOf bs then decode (bs.drop 3) else decode bs

end Wikidown.Utf8
