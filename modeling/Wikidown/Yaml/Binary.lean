import Wikidown.Charset.Reading

/-!
# Binary data

Bytes written in base 64: each character gives six bits. Characters that are no digits are skipped,
and the data ends at the padding that completes a group of four.
-/

namespace Wikidown.Yaml.Binary

/-- The six bits of a character. -/
def bits? (c : Char) : Option Nat :=
  if c.isUpper then some (c.toNat - 'A'.toNat)
  else if c.isLower then some (c.toNat - 'a'.toNat + 26)
  else if c.isDigit then some (c.toNat - '0'.toNat + 52)
  else if c = '+' then some 62
  else if c = '/' then some 63
  else none

/-- Reads characters behind `digits` digits and `pads` paddings of a group of four; `held` are the bits
that are not yet part of a byte. -/
def decodeFrom : (digits pads held : Nat) → Text → Option Bytes
  | digits, _, _, [] => if digits = 0 then some [] else none
  | digits, pads, held, c :: s =>
    if c = '=' then
      if digits < 2 then decodeFrom digits pads held s
      else if 4 ≤ digits + pads + 1 then some []
      else decodeFrom digits (pads + 1) held s
    else
      match bits? c with
      | none => decodeFrom digits pads held s
      | some b =>
        match digits with
        | 0 => decodeFrom 1 0 b s
        | 1 => (decodeFrom 2 0 (b % 16) s).map (UInt8.ofNat (held * 4 + b / 16) :: ·)
        | 2 => (decodeFrom 3 0 (b % 4) s).map (UInt8.ofNat (held * 16 + b / 4) :: ·)
        | _ => (decodeFrom 0 0 0 s).map (UInt8.ofNat (held * 64 + b) :: ·)

/-- The bytes that a text of ASCII characters writes. -/
def decode? (s : Text) : Option Bytes :=
  if s.all fun c => c.toNat < 0x80 then decodeFrom 0 0 0 s else none

end Wikidown.Yaml.Binary
