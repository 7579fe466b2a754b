import Wikidown.Text.Basic

/-!
# Cursors

A place in a YAML document: the text that is left, and the index, line and column of the place. This
module holds the classes of characters that YAML distinguishes and the moves of a cursor.
-/

namespace Wikidown.Yaml

/-- The characters at which a line ends. -/
def isBreak (c : Char) : Bool :=
  c == '\n' || c == '\r' || c == '\u0085' || c == '\u2028' || c == '\u2029'

/-- Whether the end of the text or of a line or a space stands there. -/
def isSpaceOrEnd (c : Option Char) : Bool :=
  c.all fun c => c == ' ' || isBreak c

/-- Whether the end of the text or of a line or a space or a tab stands there. -/
def isBlankOrEnd (c : Option Char) : Bool :=
  c.all fun c => c == ' ' || c == '\t' || isBreak c

/-- The characters of names: ASCII letters, digits, the dash and the underscore. -/
def isNameChar (c : Char) : Bool :=
  c.isAlphanum || c == '-' || c == '_'

/-- The digits of hexadecimal numbers. -/
def isHexDigit (c : Char) : Bool :=
  c.isDigit || ('a' ≤ c && c ≤ 'f') || ('A' ≤ c && c ≤ 'F')

/-- The number of a hexadecimal digit. -/
def hexValue (c : Char) : Nat :=
  if c.isDigit then c.toNat - '0'.toNat
  else if 'a' ≤ c then c.toNat - 'a'.toNat + 10
  else c.toNat - 'A'.toNat + 10

/-- The number of some hexadecimal digits. -/
def hexNumber (cs : Text) : Nat :=
  cs.foldl (fun n c => n * 16 + hexValue c) 0

/-- The byte order mark. -/
def byteOrderMark : Char :=
  '\uFEFF'

/-- The characters that a document may hold. -/
def isPermitted (c : Char) : Bool :=
  let n := c.toNat
  n == 9 || n == 10 || n == 13 || (0x20 ≤ n && n ≤ 0x7E) || n == 0x85 ||
    (0xA0 ≤ n && n ≤ 0xD7FF) || (0xE000 ≤ n && n ≤ 0xFFFD) || 0x10000 ≤ n

/-- A place in a document. -/
structure Cursor where
  rest : Text
  index : Nat
  line : Nat
  column : Nat

namespace Cursor

/-- The beginning of a document. -/
def start (s : Text) : Cursor :=
  ⟨s, 0, 0, 0⟩

/-- The next character. -/
def peek (c : Cursor) : Option Char :=
  c.rest.head?

/-- The character `k` places on. -/
def peekAt (c : Cursor) (k : Nat) : Option Char :=
  c.rest[k]?

/-- Whether the next character is `x`. -/
def isAt (c : Cursor) (x : Char) : Bool :=
  c.peek == some x

/-- The place behind the next character. A byte order mark takes no column. -/
def next (c : Cursor) : Cursor :=
  match c.rest with
  | [] => c
  | x :: r =>
    if isBreak x && !(x == '\r' && r.head? == some '\n') then ⟨r, c.index + 1, c.line + 1, 0⟩
    else if x = byteOrderMark then ⟨r, c.index + 1, c.line, c.column⟩
    else ⟨r, c.index + 1, c.line, c.column + 1⟩

/-- The place behind the next `n` characters. -/
def advance : Nat → Cursor → Cursor
  | 0, c => c
  | n + 1, c => advance n c.next

/-- The longest run of characters of a class, and the place behind it. -/
def run (c : Cursor) (p : Char → Bool) : Text × Cursor :=
  let taken := c.rest.takeWhile p
  (taken, c.advance taken.length)

/-- The place behind all spaces. -/
def skipSpaces (c : Cursor) : Cursor :=
  (c.run (· == ' ')).2

/-- The place behind a comment, if one begins there. -/
def skipComment (c : Cursor) : Cursor :=
  if c.isAt '#' then (c.run fun x => !isBreak x).2 else c

/-- The line break there, as it counts in a scalar, and the place behind it. -/
def lineBreak? (c : Cursor) : Option (Char × Cursor) :=
  match c.rest with
  | '\r' :: '\n' :: _ => some ('\n', c.advance 2)
  | x :: _ =>
    if x = '\u2028' ∨ x = '\u2029' then some (x, c.next)
    else if isBreak x then some ('\n', c.next)
    else none
  | [] => none

/-- Whether a document mark (three dashes or three dots) stands there on its own. -/
def isAtDocumentMark (c : Cursor) : Bool :=
  (c.rest.take 3 == "---".toList || c.rest.take 3 == "...".toList) && isBlankOrEnd (c.peekAt 3)

end Cursor

end Wikidown.Yaml
