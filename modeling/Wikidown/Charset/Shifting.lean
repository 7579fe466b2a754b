import Wikidown.Charset.EastAsian
import Wikidown.Charset.Table.National

/-!
# Encodings that shift

Encodings of seven bits, in which marks in the text say by which table the bytes behind them are read:
`hz`, where a tilde opens and closes pairs, and the family of ISO 2022, where escape sequences name
the tables.
-/

namespace Wikidown.Shifting

/-- The characters of a pair of seven-bit bytes in a table of pairs above 128. -/
def lowPair (chars? : UInt8 → UInt8 → Option Text) (lead trail : UInt8) : Option Text :=
  if lead < 0x80 ∧ trail < 0x80 then chars? (lead ||| 0x80) (trail ||| 0x80) else none

/-- Reads a pair that has begun with a byte. -/
def readLowPair (chars? : UInt8 → UInt8 → Option Text) (faulty : Nat) (b : UInt8) :
    Bytes → Reading Char
  | [] => .flaw .incompleteSequence 1
  | t :: _ =>
    match lowPair chars? b t with
    | some cs => .chars cs 1
    | none => .flaw .illegalSequence faulty

/-- Reads `hz`; the state says whether pairs are open. -/
def nextHz (pairs : Bool) (b : UInt8) (r : Bytes) : Bool × Reading Char :=
  if b = 0x7E then
    match r with
    | [] => (pairs, .flaw .incompleteSequence 1)
    | t :: _ =>
      if pairs then
        if t = 0x7D then (false, .chars [] 1) else (pairs, .flaw .illegalSequence 1)
      else if t = 0x7E then (pairs, .chars ['~'] 1)
      else if t = 0x7B then (true, .chars [] 1)
      else if t = 0x0A then (pairs, .chars [] 1)
      else (pairs, .flaw .illegalSequence 1)
  else if 0x80 ≤ b then (pairs, .flaw .illegalSequence 1)
  else if pairs then (pairs, readLowPair (PairTable.gb2312.chars? []) 1 b r)
  else (pairs, .chars [Char.ofNat b.toNat] 0)

/-- The tables that escape sequences can name. -/
inductive Table
  | ascii
  | latin
  | greek
  | roman
  | kana
  | gb2312
  | jis
  | jisOld
  | korean
  | jisSecond
  | jis2000
  | jis2004
  | jisThird
deriving DecidableEq, Repr

namespace Table

/-- Whether a table has pairs, and the byte at the end of the escape sequences that name it. -/
def mark : Table → Bool × UInt8
  | ascii => (false, 0x42)
  | latin => (false, 0x41)
  | greek => (false, 0x46)
  | roman => (false, 0x4A)
  | kana => (false, 0x49)
  | gb2312 => (true, 0x41)
  | jis => (true, 0x42)
  | jisOld => (true, 0x40)
  | korean => (true, 0x43)
  | jisSecond => (true, 0x44)
  | jis2000 => (true, 0x4F)
  | jis2004 => (true, 0x51)
  | jisThird => (true, 0x50)

/-- The rows of the third plane; the other rows are those of the supplementary table. -/
def isThirdRow (lead : UInt8) : Bool :=
  [0xA1, 0xA3, 0xA4, 0xA5, 0xA8, 0xAC, 0xAD, 0xAE, 0xAF].contains lead.toNat || 0xEE ≤ lead

/-- The characters of a pair; `edition2000` says whether the table is that of the year 2000. The filler
is a character here, and so is the tilde. -/
def pair? (edition2000 : Bool) : Table → UInt8 → UInt8 → Option Text
  | gb2312 => PairTable.gb2312.chars? []
  | jis | jisOld => PairTable.eucJp.chars? []
  | korean => PairTable.eucKr.chars? [((0xA4, 0xD4), [0x3164])]
  | jisSecond => PairTable.eucJpThird.chars? EastAsian.thirdListed
  | jis2000 | jis2004 => fun l t =>
    if l = 0xA2 ∧ t = 0xB2 then some ['~'] else EastAsian.jis2004Pair edition2000 l t
  | jisThird => fun l t => if isThirdRow l then EastAsian.jis2004Third false l t else none
  | _ => fun _ _ => none

/-- Reads a byte of seven bits by a table; two tables have upper halves alone. -/
def read (edition2000 : Bool) (t : Table) (b : UInt8) (r : Bytes) : Reading Char :=
  match t with
  | roman =>
    .chars [if b = 0x5C then '\u00A5' else if b = 0x7E then '\u203E' else Char.ofNat b.toNat] 0
  | kana =>
    if 0x21 ≤ b ∧ b ≤ 0x5F then .chars [EastAsian.halfWidth (b ||| 0x80)] 0
    else .flaw .illegalSequence 1
  | ascii => .chars [Char.ofNat b.toNat] 0
  | latin | greek => .flaw .illegalSequence 1
  | t => readLowPair (t.pair? edition2000) 2 b r

/-- The character of a byte of the upper half of a table, with its high bit left out. -/
def upper? (t : Table) (b : UInt8) : Option Char :=
  let c := b ^^^ 0x80
  match t with
  | ascii => if b < 0x80 then some (Char.ofNat b.toNat) else none
  | latin => if b < 0x80 then some (Char.ofNat (b.toNat + 0x80)) else none
  | greek =>
    if c < 0xA0 then some (Char.ofNat c.toNat)
    else if c = 0xAF then some '\u2015'
    else if [0xA4, 0xA5, 0xAA].contains c.toNat then none
    else ByteTable.iso8859p7.char? c
  | _ => none

/-- Reads a byte of the upper half of a table behind two bytes that announce it. Not every table that
can be named has an upper half. -/
def readUpper (t : Table) (b : UInt8) : Reading Char :=
  match t.upper? b with
  | some x => .chars [x] 2
  | none =>
    if [ascii, latin, greek].contains t then .flaw .illegalSequence 3 else .flaw .unreadableTable 3

end Table

/-- An encoding of the family of ISO 2022: its tables besides ASCII, whether single bytes shift between
two tables, whether a third table is used for single characters, and which edition of the tables of
2004 it has. -/
structure Family where
  tables : List Table
  shifts : Bool := false
  third : Bool := false
  registered : Bool := true
  edition2000 : Bool := false

/-- The tables in use, whether the second one is on, and whether a foreign escape sequence is passed
over. -/
structure Tables where
  first : Table := .ascii
  second : Table := .ascii
  third : Table := .ascii
  shifted : Bool := false
  passing : Bool := false

/-- Whether a byte ends an escape sequence. -/
def endsEscape (b : UInt8) : Bool :=
  0x40 ≤ b && b ≤ 0x5A

/-- A number of bytes and some more; zero bytes stand for no end. -/
def further (more count : Nat) : Nat :=
  if count = 0 then 0 else count + more

/-- How many bytes behind the escape byte belong to the sequence: zero if it does not end within
`limit` bytes, and none if the bytes are too few to tell. The sequence that announces a registered
revision is passed over. -/
def escapeLength (registered : Bool) : (limit : Nat) → Bytes → Option Nat
  | 0, _ => some 0
  | _, [] => none
  | limit + 1, b :: r =>
    if endsEscape b then some 1
    else if registered && b == 0x26 && r.head? == some 0x40 then
      (escapeLength registered (limit - 2) (r.drop 2)).map (further 3)
    else (escapeLength registered limit r).map (further 1)
termination_by limit => limit

/-- The place and the mark of the table that an escape sequence names. -/
def designation? (f : Family) : Bytes → Option (Nat × Bool × UInt8)
  | [0x24, c] => some (0, true, c)
  | [0x28, c] => some (0, false, c)
  | [0x29, c] => some (1, false, c)
  | [0x2E, c] => if f.third then some (2, false, c) else none
  | [0x24, 0x28, c] => some (0, true, c)
  | [0x24, 0x29, c] => some (1, true, c)
  | [0x26, 0x40, 0x1B, 0x24, 0x42] => if f.registered then some (0, true, 0x42) else none
  | _ => none

/-- The tables after one of them was named. -/
def Tables.designate (s : Tables) (place : Nat) (t : Table) : Tables :=
  match place with
  | 0 => { s with first := t }
  | 1 => { s with second := t }
  | _ => { s with third := t }

/-- Reads an escape sequence that names a table. -/
def readEscape (f : Family) (s : Tables) (r : Bytes) : Tables × Reading Char :=
  match escapeLength f.registered 15 r with
  | none => (s, .flaw .incompleteSequence (1 + r.length))
  | some 0 => (s, .flaw .illegalSequence 1)
  | some n =>
    let refused := (s, Reading.flaw .illegalSequence (n + 1))
    match designation? f (r.take n) with
    | none => refused
    | some (place, mark) =>
      match (Table.ascii :: f.tables).find? fun t => t.mark == mark with
      | some t => (s.designate place t, .chars [] n)
      | none => refused

/-- Reads an encoding of the family. -/
def next2022 (f : Family) (s : Tables) (b : UInt8) (r : Bytes) : Tables × Reading Char :=
  let itself := Reading.chars [Char.ofNat b.toNat] 0
  if s.passing then ({ s with passing := !endsEscape b }, itself)
  else if b = 0x1B then
    match r with
    | [] => (s, .flaw .incompleteSequence 1)
    | c :: r' =>
      if [0x28, 0x29, 0x24, 0x2E, 0x26].contains c.toNat then readEscape f s r
      else if f.third ∧ c = 0x4E then
        match r' with
        | [] => (s, .flaw .incompleteSequence 2)
        | c :: _ => (s, s.third.readUpper c)
      else ({ s with passing := true }, itself)
  else if f.shifts ∧ b = 0x0F then ({ s with shifted := false }, .chars [] 0)
  else if f.shifts ∧ b = 0x0E then ({ s with shifted := true }, .chars [] 0)
  else if b = 0x0A then ({ s with shifted := false }, itself)
  else if b < 0x20 then (s, itself)
  else if 0x80 ≤ b then (s, .flaw .illegalSequence 1)
  else (s, (if s.shifted then s.second else s.first).read f.edition2000 b r)

/-- The plain Japanese encoding. -/
def japanese : Family where
  tables := [.jis, .roman, .jisOld]

/-- With the supplementary table. -/
def japanese1 : Family where
  tables := [.jis, .jisSecond, .roman, .jisOld]

/-- With tables of other languages. -/
def japanese2 : Family where
  tables := [.jis, .jisSecond, .korean, .gb2312, .roman, .jisOld, .latin, .greek]
  third := true

/-- With the larger tables of the year 2000. -/
def japanese3 : Family where
  tables := [.jis, .jis2000, .jisThird]
  edition2000 := true

/-- With the larger tables of the year 2004. -/
def japanese2004 : Family where
  tables := [.jis, .jis2004, .jisThird]

/-- With half-width letters. -/
def japaneseExtended : Family where
  tables := [.jis, .jisSecond, .roman, .kana, .jisOld]

/-- The Korean encoding. -/
def korean : Family where
  tables := [.korean]
  shifts := true
  registered := false

/-- The text of bytes in `hz`. -/
def decodeHz (bs : Bytes) : Except DecodeError Text :=
  decodeStateful nextHz false 0 bs

/-- The text of bytes in an encoding of the family. -/
def decode2022 (f : Family) (bs : Bytes) : Except DecodeError Text :=
  decodeStateful (next2022 f) {} 0 bs

/-- The text of bytes in the encoding with a third table. The codec breaks down where that table has no
upper half. -/
def decodeJapanese2 (bs : Bytes) : Except Undecodable CodeText :=
  match decode2022 japanese2 bs with
  | .ok s => .ok (.ofText s)
  | .error e => .error (if e.flaw = .unreadableTable then .refused .breakdown else .flawed e)

end Wikidown.Shifting
