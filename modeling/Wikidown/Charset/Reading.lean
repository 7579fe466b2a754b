import Wikidown.Text.CodePoint

/-!
# Reading characters from bytes

Every encoding is read by one function that looks at the front of the bytes and answers with the
characters there, or with what is wrong; in some encodings these are code points, lone surrogates
among them. `decodeWith` repeats it over all bytes and says where the
first fault is. The main statement is that decoding a sequence of codes gives the characters of each
(`decodeWith_append`).
-/

namespace Wikidown

/-- A sequence of bytes. -/
abbrev Bytes := List UInt8

/-- What can be wrong with the bytes of a text. -/
inductive Flaw
  | notAscii
  | unmapped
  | invalidStart
  | invalidContinuation
  | unexpectedEnd
  | truncated
  | illegalEncoding
  | illegalSurrogate
  | surrogatePoint
  | outOfRange
  | illegalSequence
  | incompleteSequence
  | unreadableTable
  | specialCharacter
  | malformedShift
  | partialShift
  | shiftPadding
  | unterminatedShift
  | lastBackslash
  | shortEscape (letter : Char) (digits : Nat)
  | escapeOutOfRange
  | illegalCharacter
  | malformedName
  | unknownName
deriving DecidableEq, Repr

/-- The reason given for a flaw. -/
def Flaw.reason : Flaw → String
  | notAscii => "ordinal not in range(128)"
  | unmapped => "character maps to <undefined>"
  | invalidStart => "invalid start byte"
  | invalidContinuation => "invalid continuation byte"
  | unexpectedEnd => "unexpected end of data"
  | truncated => "truncated data"
  | illegalEncoding => "illegal encoding"
  | illegalSurrogate => "illegal UTF-16 surrogate"
  | surrogatePoint => "code point in surrogate code point range(0xd800, 0xe000)"
  | outOfRange => "code point not in range(0x110000)"
  | illegalSequence => "illegal multibyte sequence"
  | incompleteSequence => "incomplete multibyte sequence"
  | unreadableTable => "internal codec error"
  | specialCharacter => "unexpected special character"
  | malformedShift => "ill-formed sequence"
  | partialShift => "partial character in shift sequence"
  | shiftPadding => "non-zero padding bits in shift sequence"
  | unterminatedShift => "unterminated shift sequence"
  | lastBackslash => "\\ at end of string"
  | shortEscape letter digits =>
    String.ofList ("truncated \\".toList ++ letter :: List.replicate digits 'X' ++ " escape".toList)
  | escapeOutOfRange => "\\Uxxxxxxxx out of range"
  | illegalCharacter => "illegal Unicode character"
  | malformedName => "malformed \\N character escape"
  | unknownName => "unknown Unicode character name"

/-- A flaw with the place of the faulty bytes, the last one excluded. -/
structure DecodeError where
  flaw : Flaw
  start : Nat
  stop : Nat
deriving DecidableEq, Repr

/-- Why a codec refuses bytes as a whole. -/
inductive Refusal
  | undefined
  | breakdown
  | incompleteNumber
  | badDigit (c : Char)
  | beyondUnicode (n : Nat)
  | labelLength
  | markedLabel
  | invalidCharacter (p : CodePoint)
  | mixedDirections
  | openDirection
  | otherForm (label form : Text)
  | within (codec : String) (r : Refusal)
deriving DecidableEq, Repr

/-- Why bytes have no text. -/
inductive Undecodable
  | flawed (e : DecodeError)
  | refused (r : Refusal)
deriving DecidableEq, Repr

/-- What stands at the front of some bytes: characters, with the number of bytes they take after the
first one, or a flaw, with the number of faulty bytes. -/
inductive Reading (α : Type)
  | chars (cs : List α) (more : Nat)
  | flaw (f : Flaw) (width : Nat)

variable {α : Type}

/-- The bytes from position `pos` on as characters. -/
def decodeWith (next : UInt8 → Bytes → Reading α) (pos : Nat) :
    Bytes → Except DecodeError (List α)
  | [] => .ok []
  | b :: r =>
    match next b r with
    | .flaw f width => .error ⟨f, pos, pos + width⟩
    | .chars cs more => (decodeWith next (pos + more + 1) (r.drop more)).map (cs ++ ·)
termination_by bs => bs.length
decreasing_by simp only [List.length_drop, List.length_cons]; omega

/-- The bytes from position `pos` on as characters, where what a byte means hangs on a state. -/
def decodeStateful {σ : Type} (next : σ → UInt8 → Bytes → σ × Reading α) (state : σ) (pos : Nat) :
    Bytes → Except DecodeError (List α)
  | [] => .ok []
  | b :: r =>
    match next state b r with
    | (_, .flaw f width) => .error ⟨f, pos, pos + width⟩
    | (state, .chars cs more) =>
      (decodeStateful next state (pos + more + 1) (r.drop more)).map (cs ++ ·)
termination_by bs => bs.length
decreasing_by simp only [List.length_drop, List.length_cons]; omega

/-- A code at the front that reads as some characters gives these characters, and the rest is read
behind it. -/
theorem decodeWith_append {next : UInt8 → Bytes → Reading α} {pos : Nat} {b : UInt8}
    {code r : Bytes} {cs : List α} (h : next b (code ++ r) = .chars cs code.length) :
    decodeWith next pos (b :: code ++ r) =
      (decodeWith next (pos + code.length + 1) r).map (cs ++ ·) := by
  rw [List.cons_append, decodeWith, h]
  simp

end Wikidown
