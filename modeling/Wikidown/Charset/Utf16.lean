import Wikidown.Charset.Reading

/-!
# UTF-16 and UTF-32

Code units of two or four bytes, in a byte order that is given or taken from a mark in front; without
a mark the least significant byte comes first.
-/

namespace Wikidown

/-- Which byte of a unit comes first. -/
inductive ByteOrder
  | little
  | big
deriving DecidableEq, Repr

/-- The value of a unit's bytes. -/
def ByteOrder.value (o : ByteOrder) (bs : Bytes) : Nat :=
  (match o with
    | little => bs.reverse
    | big => bs).foldl (fun n (b : UInt8) => n * 256 + b.toNat) 0

/-- The byte order mark in both orders. -/
def byteOrderMark : Nat :=
  0xFEFF

/-- The order that a mark of `width` bytes in front of the bytes shows. -/
def ByteOrder.ofMark? (width : Nat) (bs : Bytes) : Option ByteOrder :=
  if bs.length < width then none
  else if little.value (bs.take width) = byteOrderMark then some little
  else if big.value (bs.take width) = byteOrderMark then some big
  else none

/-- Decodes bytes whose order is given, or else shown by a mark of `width` bytes. -/
def decodeOrdered (width : Nat) (next : ByteOrder → UInt8 → Bytes → Reading Char)
    (order : Option ByteOrder) (bs : Bytes) : Except DecodeError Text :=
  match order with
  | some o => decodeWith (next o) 0 bs
  | none =>
    match ByteOrder.ofMark? width bs with
    | some o => decodeWith (next o) width (bs.drop width)
    | none => decodeWith (next .little) 0 bs

namespace Utf16

/-- The first unit of a pair. -/
def isHigh (n : Nat) : Bool :=
  0xD800 ≤ n && n < 0xDC00

/-- The second unit of a pair. -/
def isLow (n : Nat) : Bool :=
  0xDC00 ≤ n && n < 0xE000

/-- The character at the front: one unit, or a high and a low surrogate. -/
def next (o : ByteOrder) (a : UInt8) : Bytes → Reading Char
  | [] => .flaw .truncated 1
  | b :: r =>
    let n := o.value [a, b]
    if isLow n then .flaw .illegalEncoding 2
    else if !isHigh n then .chars [Char.ofNat n] 1
    else
      match r with
      | c :: d :: _ =>
        let m := o.value [c, d]
        if isLow m then .chars [Char.ofNat (0x10000 + (n - 0xD800) * 1024 + (m - 0xDC00))] 3
        else .flaw .illegalSurrogate 2
      | r => .flaw .unexpectedEnd (2 + r.length)

/-- The text of some bytes. -/
def decode : Option ByteOrder → Bytes → Except DecodeError Text :=
  decodeOrdered 2 next

end Utf16

namespace Utf32

/-- The character at the front. -/
def next (o : ByteOrder) (a : UInt8) : Bytes → Reading Char
  | b :: c :: d :: _ =>
    let n := o.value [a, b, c, d]
    if 0xD800 ≤ n ∧ n < 0xE000 then .flaw .surrogatePoint 4
    else if 0x110000 ≤ n then .flaw .outOfRange 4
    else .chars [Char.ofNat n] 3
  | r => .flaw .truncated (1 + r.length)

/-- The text of some bytes. -/
def decode : Option ByteOrder → Bytes → Except DecodeError Text :=
  decodeOrdered 4 next

end Utf32

end Wikidown
