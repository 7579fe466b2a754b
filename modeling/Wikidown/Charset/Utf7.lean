import Wikidown.Charset.Utf16

/-!
# UTF-7

Text in ASCII, where a plus sign opens a run of digits to base 64 that hold units of sixteen bits. A
minus sign, or any other character that is no such digit, closes the run; the bits left over are zero
and fewer than six. A surrogate without its other half stays a code point of its own.
-/

namespace Wikidown.Utf7

/-- The six bits of a digit. -/
def bits? (b : UInt8) : Option Nat :=
  let c := Char.ofNat b.toNat
  if c.isUpper then some (c.toNat - 'A'.toNat)
  else if c.isLower then some (c.toNat - 'a'.toNat + 26)
  else if c.isDigit then some (c.toNat - '0'.toNat + 52)
  else if c = '+' then some 62
  else if c = '/' then some 63
  else none

/-- A run of digits: where it begins, how many bits are held and their value, and a high surrogate that
waits for its low one. -/
structure Shift where
  start : Nat
  held : Nat := 0
  value : Nat := 0
  high : Option Nat := none

/-- Where the reading stands: outside of the runs, just behind a plus sign, or in a run. -/
inductive Mode
  | direct
  | opened (start : Nat)
  | shifted (s : Shift)

/-- The code points that a unit completes, and the high surrogate that waits after it. -/
def takeUnit (high : Option Nat) (unit : Nat) : CodeText × Option Nat :=
  match high with
  | some h =>
    if Utf16.isLow unit then
      ([.ofNat (0x10000 + (h - 0xD800) * 1024 + (unit - 0xDC00))], none)
    else if Utf16.isHigh unit then ([.ofNat h], some unit)
    else ([.ofNat h, .ofNat unit], none)
  | none => if Utf16.isHigh unit then ([], some unit) else ([.ofNat unit], none)

/-- A run with one more digit, and the code points that it completes. -/
def Shift.push (s : Shift) (digit : Nat) : CodeText × Shift :=
  let value := s.value * 64 + digit
  let held := s.held + 6
  if held < 16 then ([], { s with held := held, value := value })
  else
    let rest := Nat.pow 2 (held - 16)
    let (cs, high) := takeUnit s.high (value / rest)
    (cs, { s with held := held - 16, value := value % rest, high := high })

/-- What is wrong with a run that ends here. -/
def Shift.flaw? (s : Shift) : Option Flaw :=
  if 6 ≤ s.held then some .partialShift
  else if s.value ≠ 0 then some .shiftPadding
  else none

/-- The text of bytes from position `pos` on. -/
def decodeFrom (mode : Mode) (pos : Nat) : Bytes → Except DecodeError CodeText
  | [] =>
    match mode with
    | .shifted s =>
      if s.high.isSome ∨ s.flaw?.isSome then .error ⟨.unterminatedShift, s.start, pos⟩ else .ok []
    | _ => .ok []
  | b :: r =>
    let direct := fun cs : CodeText =>
      if b < 0x80 then
        (decodeFrom .direct (pos + 1) r).map fun t => cs ++ .ofNat b.toNat :: t
      else .error ⟨.specialCharacter, pos, pos + 1⟩
    match mode with
    | .direct => if b = 0x2B then decodeFrom (.opened pos) (pos + 1) r else direct []
    | .opened start =>
      if b = 0x2D then (decodeFrom .direct (pos + 1) r).map (.char '+' :: ·)
      else
        match bits? b with
        | some d =>
          let (cs, s) := Shift.push ⟨start, 0, 0, none⟩ d
          (decodeFrom (.shifted s) (pos + 1) r).map (cs ++ ·)
        | none => .error ⟨.malformedShift, start, pos + 1⟩
    | .shifted s =>
      match bits? b with
      | some d =>
        let (cs, s) := s.push d
        (decodeFrom (.shifted s) (pos + 1) r).map (cs ++ ·)
      | none =>
        match s.flaw? with
        | some f => .error ⟨f, s.start, pos + 1⟩
        | none =>
          let lone := if b < 0x80 then s.high.toList.map .ofNat else []
          if b = 0x2D then (decodeFrom .direct (pos + 1) r).map (lone ++ ·) else direct lone

/-- The text of some bytes. -/
def decode (bs : Bytes) : Except DecodeError CodeText :=
  decodeFrom .direct 0 bs

end Wikidown.Utf7
