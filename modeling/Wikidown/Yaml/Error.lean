import Wikidown.Text.Quoted

/-!
# What can be wrong with a YAML document

A document can break the grammar of YAML or hold nodes that make no value: these are complaints. And
a scalar whose tag promises a number, a truth value or a time can fail to be one, or nodes can be nested
too deeply to be read: these are misfits.
-/

namespace Wikidown.Yaml

/-- A breach of the grammar, or a node that makes no value. -/
inductive Complaint
  | unprintable
  | staleKey
  | entryNotAllowed
  | keyNotAllowed
  | valueNotAllowed
  | unexpectedCharacter
  | badDirective
  | badAnchorName
  | badTag
  | badBlockHeader
  | badEscape
  | unclosedQuote
  | documentMarkInQuote
  | unmatchedBracket
  | unsupportedVersion
  | repeatedDirective
  | undefinedHandle
  | expectedDocumentStart
  | expectedContent
  | expectedBlockEnd
  | expectedSeparator
  | undefinedAlias
  | repeatedAnchor
  | secondDocument
  | unknownTag
  | wrongKind
  | unhashableKey
  | badBinary
deriving DecidableEq, Repr

/-- The description of a complaint. -/
def Complaint.description : Complaint → String
  | unprintable => "special characters are not allowed"
  | staleKey => "could not find the colon after a simple key"
  | entryNotAllowed => "sequence entries are not allowed here"
  | keyNotAllowed => "mapping keys are not allowed here"
  | valueNotAllowed => "mapping values are not allowed here"
  | unexpectedCharacter => "found a character that cannot start any token"
  | badDirective => "found a directive that is not well formed"
  | badAnchorName => "expected letters or digits in the name of an anchor"
  | badTag => "found a tag that is not well formed"
  | badBlockHeader => "expected chomping or indentation indicators"
  | badEscape => "found an unknown escape"
  | unclosedQuote => "found the end of the text in a quoted scalar"
  | documentMarkInQuote => "found a document separator in a quoted scalar"
  | unmatchedBracket => "found a closing bracket that nothing opened"
  | unsupportedVersion => "found a version of YAML other than 1"
  | repeatedDirective => "found the same directive twice"
  | undefinedHandle => "found a tag handle that is not defined"
  | expectedDocumentStart => "expected the start of a document"
  | expectedContent => "expected the content of a node"
  | expectedBlockEnd => "expected the end of a block"
  | expectedSeparator => "expected a comma or a closing bracket"
  | undefinedAlias => "found an alias of nothing"
  | repeatedAnchor => "found the same anchor twice"
  | secondDocument => "expected a single document"
  | unknownTag => "could not find a value for a tag"
  | wrongKind => "found a node of the wrong kind for its tag"
  | unhashableKey => "found a key that is a collection"
  | badBinary => "could not decode binary data"

/-- A scalar that is not what its tag says, a text that is not one of characters, or nodes that are
nested too deeply. -/
inductive Misfit
  | emptyNumber
  | notInteger (base : Nat) (text : String)
  | tooManyDigits (count : Nat)
  | notReal (text : String)
  | tooManyGroups
  | notBoolean (text : String)
  | notTime
  | collectionAsTime
  | year (n : Nat)
  | month
  | day
  | hour
  | minute
  | second
  | zone (days : Int) (seconds : Nat)
  | codePoint
  | codePointSize
  | surrogate (n : Nat)
  | tooDeep
deriving DecidableEq, Repr

/-- The days and seconds of a time offset, as they are written. -/
def offsetText (days : Int) (seconds : Nat) : String :=
  let day := if days = 0 then [] else [s!"days={days}"]
  let second := if seconds = 0 then [] else [s!"seconds={seconds}"]
  "datetime.timedelta(" ++ ", ".intercalate (day ++ second) ++ ")"

/-- The message of a misfit. -/
def Misfit.message : Misfit → String
  | emptyNumber => "string index out of range"
  | notInteger base text =>
    s!"invalid literal for int() with base {base}: " ++
      String.ofList ((Quoted.quoted text).toList.take 200)
  | tooManyDigits count =>
    "Exceeds the limit (4300 digits) for integer string conversion: value has " ++
      s!"{count} digits; use sys.set_int_max_str_digits() to increase the limit"
  | notReal text => "could not convert string to float: " ++ Quoted.quoted text
  | tooManyGroups => "int too large to convert to float"
  | notBoolean text => Quoted.quoted text
  | notTime => "'NoneType' object has no attribute 'groupdict'"
  | collectionAsTime => "expected string or bytes-like object, got 'list'"
  | year n => s!"year {n} is out of range"
  | month => "month must be in 1..12"
  | day => "day is out of range for month"
  | hour => "hour must be in 0..23"
  | minute => "minute must be in 0..59"
  | second => "second must be in 0..59"
  | zone days seconds =>
    "offset must be a timedelta strictly between -timedelta(hours=24) and timedelta(hours=24), not "
      ++ offsetText days seconds ++ "."
  | codePoint => "chr() arg not in range(0x110000)"
  | codePointSize => "Python int too large to convert to C int"
  | surrogate n =>
    "'utf-8' codec can't encode character '" ++ String.ofList (Quoted.numberEscape n) ++
      "' in position 0: surrogates not allowed"
  | tooDeep => "maximum recursion depth exceeded"

/-- Why a document has no value. -/
inductive Trouble
  | complaint (c : Complaint)
  | misfit (m : Misfit)
deriving DecidableEq, Repr

end Wikidown.Yaml
