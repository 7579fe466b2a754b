import Wikidown.Charset.Gb18030
import Wikidown.Charset.Pairs
import Wikidown.Charset.Pairs.Big5
import Wikidown.Charset.Pairs.EucJp
import Wikidown.Charset.Pairs.Gb
import Wikidown.Charset.Pairs.Korean
import Wikidown.Charset.Pairs.ShiftJis

/-!
# East Asian encodings

The encodings in which single bytes and pairs of bytes stand for characters, and the longer codes of
some of them: four bytes in GB 18030, three behind `8F` in the Japanese ones, and eight for a
syllable that is spelled out in Korean.
-/

namespace Wikidown.EastAsian

/-- The pairs of `big5hkscs` that stand for two characters. -/
def hongKongListed : List ((Nat × Nat) × List Nat) := [
  ((0x88, 0x62), [0xCA, 0x304]), ((0x88, 0x64), [0xCA, 0x30C]), ((0x88, 0xA3), [0xEA, 0x304]),
  ((0x88, 0xA5), [0xEA, 0x30C])]

/-- The pair of `shift_jis_2004` for the tilde, and those that stand for two characters. -/
def shiftJis2004Listed : List ((Nat × Nat) × List Nat) := [
  ((0x81, 0xB0), [0x7E]),
  ((0x82, 0xF5), [0x304B, 0x309A]), ((0x82, 0xF6), [0x304D, 0x309A]),
  ((0x82, 0xF7), [0x304F, 0x309A]), ((0x82, 0xF8), [0x3051, 0x309A]),
  ((0x82, 0xF9), [0x3053, 0x309A]), ((0x83, 0x97), [0x30AB, 0x309A]),
  ((0x83, 0x98), [0x30AD, 0x309A]), ((0x83, 0x99), [0x30AF, 0x309A]),
  ((0x83, 0x9A), [0x30B1, 0x309A]), ((0x83, 0x9B), [0x30B3, 0x309A]),
  ((0x83, 0x9C), [0x30BB, 0x309A]), ((0x83, 0x9D), [0x30C4, 0x309A]),
  ((0x83, 0x9E), [0x30C8, 0x309A]), ((0x83, 0xF6), [0x31F7, 0x309A]),
  ((0x86, 0x63), [0xE6, 0x300]), ((0x86, 0x67), [0x254, 0x300]), ((0x86, 0x68), [0x254, 0x301]),
  ((0x86, 0x69), [0x28C, 0x300]), ((0x86, 0x6A), [0x28C, 0x301]), ((0x86, 0x6B), [0x259, 0x300]),
  ((0x86, 0x6C), [0x259, 0x301]), ((0x86, 0x6D), [0x25A, 0x300]), ((0x86, 0x6E), [0x25A, 0x301]),
  ((0x86, 0x85), [0x2E9, 0x2E5]), ((0x86, 0x86), [0x2E5, 0x2E9])]

/-- The pairs of `euc_jis_2004` that stand for two characters. -/
def eucJis2004Listed : List ((Nat × Nat) × List Nat) := [
  ((0xA4, 0xF7), [0x304B, 0x309A]), ((0xA4, 0xF8), [0x304D, 0x309A]),
  ((0xA4, 0xF9), [0x304F, 0x309A]), ((0xA4, 0xFA), [0x3051, 0x309A]),
  ((0xA4, 0xFB), [0x3053, 0x309A]), ((0xA5, 0xF7), [0x30AB, 0x309A]),
  ((0xA5, 0xF8), [0x30AD, 0x309A]), ((0xA5, 0xF9), [0x30AF, 0x309A]),
  ((0xA5, 0xFA), [0x30B1, 0x309A]), ((0xA5, 0xFB), [0x30B3, 0x309A]),
  ((0xA5, 0xFC), [0x30BB, 0x309A]), ((0xA5, 0xFD), [0x30C4, 0x309A]),
  ((0xA5, 0xFE), [0x30C8, 0x309A]), ((0xA6, 0xF8), [0x31F7, 0x309A]),
  ((0xAB, 0xC4), [0xE6, 0x300]), ((0xAB, 0xC8), [0x254, 0x300]), ((0xAB, 0xC9), [0x254, 0x301]),
  ((0xAB, 0xCA), [0x28C, 0x300]), ((0xAB, 0xCB), [0x28C, 0x301]), ((0xAB, 0xCC), [0x259, 0x300]),
  ((0xAB, 0xCD), [0x259, 0x301]), ((0xAB, 0xCE), [0x25A, 0x300]), ((0xAB, 0xCF), [0x25A, 0x301]),
  ((0xAB, 0xE5), [0x2E9, 0x2E5]), ((0xAB, 0xE6), [0x2E5, 0x2E9])]

/-- The pair for the tilde behind `8F`. -/
def thirdListed : List ((Nat × Nat) × List Nat) :=
  [((0xA2, 0xB7), [0x7E])]

/-- Reads an encoding that is ASCII below 128 and has the pairs of a table. -/
def nextPair (t : PairTable) : UInt8 → Bytes → Reading Char :=
  readPair asciiRole (t.chars? [])

/-- Reads `big5hkscs`. -/
def nextHongKong : UInt8 → Bytes → Reading Char :=
  readPair asciiRole (PairTable.big5hkscs.chars? hongKongListed)

/-- Reads GB 18030, where a second byte that is a digit makes a code of four bytes. -/
def nextGb18030 (b : UInt8) : Bytes → Reading Char
  | t :: r =>
    if 0x80 ≤ b ∧ 0x30 ≤ t ∧ t ≤ 0x39 then
      match r with
      | c :: d :: _ =>
        match Gb18030.char? b t c d with
        | some x => .chars [x] 3
        | none => .flaw .illegalSequence 1
      | r => .flaw .incompleteSequence (2 + r.length)
    else nextPair .gb18030 b (t :: r)
  | [] => nextPair .gb18030 b []

/-- The number of the initial consonant that a byte spells. -/
def initial? (b : UInt8) : Option Nat :=
  [some 0, some 1, none, some 2, none, none, some 3, some 4, some 5, none, none, none, none, none,
    none, none, some 6, some 7, some 8, none, some 9, some 10, some 11, some 12, some 13, some 14,
    some 15, some 16, some 17, some 18][b.toNat - 0xA1]?.join.filter fun _ => 0xA1 ≤ b

/-- The number of the vowel that a byte spells. -/
def vowel? (b : UInt8) : Option Nat :=
  if 0xBF ≤ b ∧ b ≤ 0xD3 then some (b.toNat - 0xBF) else none

/-- The number of the final consonant that a byte spells; the filler spells none. -/
def final? (b : UInt8) : Option Nat :=
  if b = 0xD4 then some 0 else
  [some 1, some 2, some 3, some 4, some 5, some 6, some 7, none, some 8, some 9, some 10, some 11,
    some 12, some 13, some 14, some 15, some 16, some 17, none, some 18, some 19, some 20, some 21,
    some 22, none, some 23, some 24, some 25, some 26, some 27][b.toNat - 0xA1]?.join.filter
      fun _ => 0xA1 ≤ b

/-- Reads `euc_kr`, where a filler opens a syllable that is spelled out. -/
def nextEucKr (b : UInt8) : Bytes → Reading Char
  | r =>
    if b = 0xA4 ∧ r.head? = some 0xD4 then
      match r with
      | _ :: m1 :: i :: m2 :: v :: m3 :: f :: _ =>
        match initial? i, vowel? v, final? f with
        | some x, some y, some z =>
          if m1 = 0xA4 ∧ m2 = 0xA4 ∧ m3 = 0xA4 then
            .chars [Char.ofNat (0xAC00 + x * 588 + y * 28 + z)] 7
          else .flaw .illegalSequence 1
        | _, _, _ => .flaw .illegalSequence 1
      | r => .flaw .incompleteSequence (1 + r.length)
    else nextPair .eucKr b r

/-- Half-width letters stand between the lead bytes of `shift_jis`. -/
def halfWidth (b : UInt8) : Char :=
  Char.ofNat (0xFEC0 + b.toNat)

/-- What a byte does in `shift_jis`. -/
def shiftJisRole (b : UInt8) : ByteRole :=
  if b < 0x80 then .char (Char.ofNat b.toNat)
  else if 0xA1 ≤ b ∧ b ≤ 0xDF then .char (halfWidth b)
  else if (0x81 ≤ b ∧ b ≤ 0x9F) ∨ (0xE0 ≤ b ∧ b ≤ 0xEA) then .lead
  else .illegal

/-- Reads `shift_jis`. -/
def nextShiftJis : UInt8 → Bytes → Reading Char :=
  readPair shiftJisRole (PairTable.shiftJis.chars? [])

/-- What a byte does in `cp932`. -/
def cp932Role (b : UInt8) : ByteRole :=
  if b ≤ 0x80 then .char (Char.ofNat b.toNat)
  else if b = 0xA0 then .char (Char.ofNat 0xF8F0)
  else if 0xA1 ≤ b ∧ b ≤ 0xDF then .char (halfWidth b)
  else if 0xFD ≤ b then .char (Char.ofNat (0xF8F1 + (b.toNat - 0xFD)))
  else .lead

/-- Reads `cp932`. -/
def nextCp932 : UInt8 → Bytes → Reading Char :=
  readPair cp932Role (PairTable.cp932.chars? [])

/-- What a byte does in `shift_jis_2004`: the yen sign and the overline stand for two characters of
ASCII. -/
def shiftJis2004Role (b : UInt8) : ByteRole :=
  if b = 0x5C then .char '\u00A5'
  else if b = 0x7E then .char '\u203E'
  else if b < 0x80 then .char (Char.ofNat b.toNat)
  else if 0xA1 ≤ b ∧ b ≤ 0xDF then .char (halfWidth b)
  else if b = 0x80 ∨ b = 0xA0 ∨ 0xFD ≤ b then .illegal
  else .lead

/-- Reads `shift_jis_2004`. -/
def nextShiftJis2004 : UInt8 → Bytes → Reading Char :=
  readPair shiftJis2004Role (PairTable.shiftJis2004.chars? shiftJis2004Listed)

/-- The characters that the edition of 2004 added, as pairs of `shift_jis_2004`. -/
def shiftJisAdded : List (Nat × Nat) :=
  [(0x87, 0x9F), (0x88, 0x9E), (0x98, 0x73), (0x98, 0x9E), (0xEA, 0xA5), (0xEF, 0xF8),
    (0xEF, 0xF9), (0xEF, 0xFA), (0xEF, 0xFB), (0xEF, 0xFC)]

/-- Reads `shift_jisx0213`, the edition of 2000: without the added characters, and with another form
of one. -/
def nextShiftJisX0213 : UInt8 → Bytes → Reading Char :=
  readPair shiftJis2004Role fun l t =>
    if shiftJisAdded.contains (l.toNat, t.toNat) then none
    else if l = 0xFC ∧ t = 0x5A then some ['\u9B1D']
    else PairTable.shiftJis2004.chars? shiftJis2004Listed l t

/-- Reads bytes that are ASCII below 128, pairs, and a pair of another table behind `8F`. -/
def nextTriple (pair third : UInt8 → UInt8 → Option Text) (b : UInt8) : Bytes → Reading Char
  | r =>
    if b = 0x8F then
      match r with
      | l :: t :: _ =>
        match third l t with
        | some cs => .chars cs 2
        | none => .flaw .illegalSequence 1
      | r => .flaw .incompleteSequence (1 + r.length)
    else readPair asciiRole pair b r

/-- Reads `euc_jp`. -/
def nextEucJp : UInt8 → Bytes → Reading Char :=
  nextTriple (PairTable.eucJp.chars? []) (PairTable.eucJpThird.chars? thirdListed)

/-- The characters that the edition of 2004 added, as pairs of `euc_jis_2004`. -/
def eucJisAdded : List (Nat × Nat) :=
  [(0xAE, 0xA1), (0xAF, 0xFE), (0xCF, 0xD4), (0xCF, 0xFE), (0xF4, 0xA7), (0xFE, 0xFA),
    (0xFE, 0xFB), (0xFE, 0xFC), (0xFE, 0xFD), (0xFE, 0xFE)]

/-- The pairs of `euc_jis_2004`, or those of the edition of 2000. -/
def jis2004Pair (edition2000 : Bool) (l t : UInt8) : Option Text :=
  if edition2000 && eucJisAdded.contains (l.toNat, t.toNat) then none
  else PairTable.eucJis2004.chars? eucJis2004Listed l t

/-- The pairs behind `8F`, or those of the edition of 2000. -/
def jis2004Third (edition2000 : Bool) (l t : UInt8) : Option Text :=
  if edition2000 ∧ l = 0xFD ∧ t = 0xBB then some ['\u9B1D']
  else PairTable.eucJis2004Third.chars? thirdListed l t

/-- Reads `euc_jis_2004`. -/
def nextEucJis2004 : UInt8 → Bytes → Reading Char :=
  nextTriple (jis2004Pair false) (jis2004Third false)

/-- Reads `euc_jisx0213`, the edition of 2000. -/
def nextEucJisX0213 : UInt8 → Bytes → Reading Char :=
  nextTriple (jis2004Pair true) (jis2004Third true)

end Wikidown.EastAsian
