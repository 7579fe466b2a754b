import Wikidown.Markup.Pattern
import Wikidown.Text.Blank

/-!
# Inline spans

Strong text, monospace, citations, insertions, superscripts, subscripts, deletions and images. Each
is a pattern, saying where such a span begins and ends, and a new form for what it captured.
-/

namespace Wikidown.Markup

open Pattern

/-- Whether a text begins with a character that is not blank. -/
def startsInk (s : Text) : Bool :=
  s.head?.any fun c => !isBlank c

/-- Whether a text ends with a character that is not blank. -/
def endsInk (s : Text) : Bool :=
  s.getLast?.any fun c => !isBlank c

/-- A run without the delimiter `d`, on one line. -/
def lineRun (d : Char) (c : Char) : Bool :=
  c != d && c != '\n'

/-- Text between two delimiters `d` of one line, the first of which is followed by ink. -/
def emphasis (d : Char) : Pattern Text :=
  (around d [] (lineRun d) [d]).filter fun _ content _ => startsInk content

/-- Strong text stands between two stars or two underscores. -/
def strongSpan : Pattern Text :=
  (emphasis '*').orElse (emphasis '_')

/-- Monospaced text stands between double braces and holds no closing brace. -/
def monospaceSpan : Pattern Text :=
  around '\x7b' "\x7b".toList (· != '\x7d') "\x7d\x7d".toList

/-- A citation stands between double question marks and holds none. -/
def citationSpan : Pattern Text :=
  around '?' "?".toList (· != '?') "??".toList

/-- Text between two delimiters `d` of one line. -/
def delimited (d : Char) : Pattern Text :=
  around d [] (lineRun d) [d]

/-- A deletion stands between blanks or ends of the text and begins and ends with ink. -/
def deletedSpan : Pattern Text :=
  (delimited '-').filter fun before content rest =>
    before.all isBlank && startsInk content && endsInk content && rest.head?.all isBlank

/-- An image address stands between exclamation marks and holds no blank. -/
def imageSpan : Pattern Text :=
  around '!' [] (fun c => !isBlank c && c != '!') "!".toList

/-- The content inside an element of the given name. -/
def element (name : String) (content : Text) : Text :=
  "<".toList ++ name.toList ++ ">".toList ++ content ++ "</".toList ++ name.toList ++ ">".toList

/-- Writes strong text in double stars. -/
def writeStrong : Text → Text :=
  strongSpan.replace fun content => "**".toList ++ content ++ "**".toList

/-- Writes monospaced text as inline code. -/
def writeMonospace : Text → Text :=
  monospaceSpan.replace fun content => "`".toList ++ content ++ "`".toList

/-- Writes citations as `cite` elements. -/
def writeCitations : Text → Text :=
  citationSpan.replace (element "cite")

/-- Writes insertions as `ins` elements. -/
def writeInsertions : Text → Text :=
  (delimited '+').replace (element "ins")

/-- Writes superscripts as `sup` elements. -/
def writeSuperscripts : Text → Text :=
  (delimited '^').replace (element "sup")

/-- Writes subscripts as `sub` elements. -/
def writeSubscripts : Text → Text :=
  (delimited '~').replace (element "sub")

/-- Strikes deletions through if asked to; else every text between two dashes stays as it is. -/
def writeDeletions (strikethrough : Bool) : Text → Text :=
  if strikethrough then
    deletedSpan.replace fun content => "~~".toList ++ content ++ "~~".toList
  else
    (delimited '-').replace fun content => "-".toList ++ content ++ "-".toList

/-- Writes image addresses as images without a title. -/
def writeImages : Text → Text :=
  imageSpan.replace fun address => "![](".toList ++ address ++ ")".toList

end Wikidown.Markup
