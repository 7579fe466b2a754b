import Wikidown.Charset.Reading

/-!
# Escapes

Bytes that stand for themselves, except for the escapes behind a backslash. In `raw_unicode_escape`
there are only the escapes that give the number of a code point, which may be that of a surrogate; in
`unicode_escape` there are those of a string literal. The names of characters are not known here.
-/

namespace Wikidown.Escape

/-- The value of a hexadecimal digit. -/
def digit? (b : UInt8) : Option Nat :=
  let c := Char.ofNat b.toNat
  if c.isDigit then some (c.toNat - '0'.toNat)
  else if 'a' ≤ c.toLower ∧ c.toLower ≤ 'f' then some (c.toLower.toNat - 'a'.toNat + 10)
  else none

/-- The number of exactly `width` hexadecimal digits at the front. -/
def number? : (width : Nat) → (value : Nat) → Bytes → Option Nat
  | 0, value, _ => some value
  | _ + 1, _, [] => none
  | width + 1, value, b :: r => (digit? b).bind fun d => number? width (value * 16 + d) r

/-- Reads the number of a code point behind the backslash and a letter. -/
def readNumber (letter : Char) (width : Nat) (beyond : Flaw) (r : Bytes) : Reading CodePoint :=
  match number? width 0 r with
  | none =>
    let digits := ((r.take width).takeWhile fun b => (digit? b).isSome).length
    .flaw (.shortEscape letter width) (2 + digits)
  | some n =>
    if 0x10FFFF < n then .flaw beyond (2 + width)
    else .chars [.ofNat n] (1 + width)

/-- The characters behind a backslash that stand for one. -/
def letters : List (Char × Text) := [
  ('\n', []), ('\\', ['\\']), ('\'', ['\'']), ('"', ['"']), ('b', ['\x08']), ('f', ['\x0c']),
  ('t', ['\t']), ('n', ['\n']), ('r', ['\r']), ('v', ['\x0b']), ('a', ['\x07'])]

/-- Reads a character that is given by up to three octal digits. -/
def readOctal (r : Bytes) : Reading CodePoint :=
  let ds := (r.take 3).takeWhile fun b => 0x30 ≤ b && b ≤ 0x37
  .chars [.ofNat (ds.foldl (fun n b => n * 8 + (b.toNat - 0x30)) 0)] ds.length

/-- Reads a character that is given by a name. -/
def readName (r : Bytes) : Reading CodePoint :=
  match r with
  | 0x7B :: r =>
    let name := r.takeWhile (· != 0x7D)
    if name = [] ∨ name.length = r.length then
      .flaw .malformedName (3 + name.length + if name.length = r.length then 0 else 1)
    else .flaw .unknownName (4 + name.length)
  | _ => .flaw .malformedName 2

/-- Reads `unicode_escape`. -/
def next (b : UInt8) (r : Bytes) : Reading CodePoint :=
  if b ≠ 0x5C then .chars [.ofNat b.toNat] 0 else
  match r with
  | [] => .flaw .lastBackslash 1
  | l :: r' =>
    let c := Char.ofNat l.toNat
    if c = 'x' then readNumber 'x' 2 .illegalCharacter r'
    else if c = 'u' then readNumber 'u' 4 .illegalCharacter r'
    else if c = 'U' then readNumber 'U' 8 .illegalCharacter r'
    else if c = 'N' then readName r'
    else if '0' ≤ c ∧ c ≤ '7' then readOctal r
    else
      match letters.lookup c with
      | some cs => .chars (CodeText.ofText cs) 1
      | none => .chars (CodeText.ofText ['\\', c]) 1

/-- Reads `raw_unicode_escape`. -/
def nextRaw (b : UInt8) (r : Bytes) : Reading CodePoint :=
  if b ≠ 0x5C then .chars [.ofNat b.toNat] 0 else
  match r with
  | [] => .chars (CodeText.ofText ['\\']) 0
  | l :: r' =>
    let c := Char.ofNat l.toNat
    if c = 'u' then readNumber 'u' 4 .escapeOutOfRange r'
    else if c = 'U' then readNumber 'U' 8 .escapeOutOfRange r'
    else .chars (CodeText.ofText ['\\', c]) 1

end Wikidown.Escape
