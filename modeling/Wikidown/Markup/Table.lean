import Wikidown.Markup.Pattern

/-!
# Tables

A line that holds a double bar is the header row of a table. It is written with single bars, and a
row that separates it from the body follows it.
-/

namespace Wikidown.Markup

open Pattern

/-- The delimiter of header cells. -/
def headerBar : Text :=
  "||".toList

/-- How many pieces the delimiter cuts a header row into, not counting empty ones at the end. -/
def headerColumns (line : Text) : Nat :=
  ((Text.splitAt headerBar line).reverse.dropWhile List.isEmpty).length

/-- The row below the header of a table whose header row has `n` pieces: the piece before the first
bar is no column. -/
def separatorRow (n : Int) : Text :=
  (List.replicate (n - 1).toNat "|---".toList).flatten ++ "|".toList

/-- Writes each double bar as a bar. -/
def singleBars : Text → Text :=
  (marker '|' "|".toList).replace fun _ => "|".toList

/-- The lines written for one line. -/
def tableLine (line : Text) : List Text :=
  if (Text.cut? headerBar line).isSome then [singleBars line, separatorRow (headerColumns line)]
  else [line]

/-- Writes header rows and the rows that separate them from the body; every line then ends in a
line feed alone. -/
def writeTableHeaders (s : Text) : Text :=
  Text.unlines ((Text.lines s).flatMap tableLine)

end Wikidown.Markup
