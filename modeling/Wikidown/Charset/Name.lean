import Wikidown.Charset.Alias
import Wikidown.Charset.Codec

/-!
# Names of encodings

How the name of an encoding is looked up: small and capital letters are the same, and whatever
stands between two words, a word being letters, digits and dots of ASCII, is one underscore.
-/

namespace Wikidown.Charset

/-- The characters of the words of a name. -/
def isWordChar (c : Char) : Bool :=
  c.isAlphanum || c == '.'

/-- The words of a name in small letters. -/
def words (name : String) : List Text :=
  ((name.toList.splitOnP fun c => !isWordChar c).filter (· != [])).map (·.map Char.toLower)

/-- The normal form of a name. -/
def normal (name : String) : String :=
  String.ofList (['_'].intercalate (words name))

/-- The codec of a name in normal form that is no alias. A name with a dot names none. -/
def ofNormal? (name : String) : Option Codec :=
  if name.contains '.' then none else Codec.ofName? name

/-- The encoding that a name in normal form is an alias of, where a dot may stand for an
underscore. -/
def unaliased? (name : String) : Option String :=
  ofAlias? name <|> ofAlias? (name.map fun c => if c = '.' then '_' else c)

/-- The codec of a name. -/
def find? (name : String) : Option Codec :=
  ((unaliased? (normal name)).bind ofNormal?) <|> ofNormal? (normal name)

end Wikidown.Charset
