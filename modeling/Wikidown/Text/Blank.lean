/-!
# Blanks

The characters that count as white space: the blanks of ASCII, the four information separators
and the spaces and line ends of Unicode. A text is stripped of them at both ends.
-/

namespace Wikidown

/-- The white space of Unicode together with the information separators. -/
def isBlank (c : Char) : Bool :=
  let n := c.toNat
  (9 ≤ n && n ≤ 13) || (28 ≤ n && n ≤ 32) || n == 0x85 || n == 0xA0 || n == 0x1680 ||
    (0x2000 ≤ n && n ≤ 0x200A) || n == 0x2028 || n == 0x2029 || n == 0x202F || n == 0x205F ||
    n == 0x3000

/-- The text without the blanks at its ends. -/
def Text.strip (s : List Char) : List Char :=
  ((s.dropWhile isBlank).reverse.dropWhile isBlank).reverse

/-- The string without the blanks at its ends. -/
def stripped (s : String) : String :=
  String.ofList (Text.strip s.toList)

end Wikidown
