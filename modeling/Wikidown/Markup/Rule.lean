import Wikidown.Markup.Inline
import Wikidown.Markup.Link
import Wikidown.Markup.Line
import Wikidown.Markup.Block
import Wikidown.Markup.Table

/-!
# Rules and conversion

The rules in their fixed order, and the conversion that applies them one after the other. Lists come
before headers, so that the hashes of a header are never read as a list run; strong text comes
before lists and leaves their runs alone.
-/

namespace Wikidown

/-- The choices of a conversion. -/
structure Options where
  strikethrough : Bool := false
deriving DecidableEq, Repr

/-- The rules. -/
inductive Rule
  | quotedLine
  | strong
  | list
  | header
  | monospace
  | citation
  | insert
  | superscript
  | subscript
  | delete
  | codeBlock
  | quoteBlock
  | image
  | link
  | tableHeader
  | noFormat
  | color
deriving DecidableEq, Repr

namespace Rule

/-- All rules, in the order in which a conversion applies them. -/
def all : List Rule :=
  [quotedLine, strong, list, header, monospace, citation, insert, superscript, subscript, delete,
    codeBlock, quoteBlock, image, link, tableHeader, noFormat, color]

theorem mem_all (r : Rule) : r ∈ all := by
  cases r <;> decide

/-- The name under which a rule is reported. -/
def name : Rule → String
  | quotedLine => "block_quote_line"
  | strong => "strong"
  | list => "list"
  | header => "header"
  | monospace => "monospace"
  | citation => "citation"
  | insert => "insert"
  | superscript => "superscript"
  | subscript => "subscript"
  | delete => "delete"
  | codeBlock => "code_block"
  | quoteBlock => "quote_block"
  | image => "image"
  | link => "link"
  | tableHeader => "table_header"
  | noFormat => "noformat"
  | color => "color"

/-- The rule of a name. -/
def ofName? (n : String) : Option Rule :=
  all.find? fun r => r.name == n

/-- What a rule makes of a text. -/
def apply (o : Options) : Rule → Text → Text
  | quotedLine => Markup.writeQuotedLines
  | strong => Markup.writeStrong
  | list => Markup.writeLists
  | header => Markup.writeHeaders
  | monospace => Markup.writeMonospace
  | citation => Markup.writeCitations
  | insert => Markup.writeInsertions
  | superscript => Markup.writeSuperscripts
  | subscript => Markup.writeSubscripts
  | delete => Markup.writeDeletions o.strikethrough
  | codeBlock => Markup.writeCodeBlocks
  | quoteBlock => Markup.writeQuoteBlocks
  | image => Markup.writeImages
  | link => Markup.writeLinks
  | tableHeader => Markup.writeTableHeaders
  | noFormat => Markup.writeNoFormat
  | color => Markup.writeColors

/-- The texts that the given rules make one after the other, each from the text before it. -/
def steps (o : Options) : List Rule → Text → List (Rule × Text)
  | [], _ => []
  | r :: rs, s => (r, r.apply o s) :: steps o rs (r.apply o s)

end Rule

/-- Converts a document by all rules in their order. -/
def convert (o : Options) (s : Text) : Text :=
  Rule.all.foldl (fun t r => r.apply o t) s

end Wikidown
