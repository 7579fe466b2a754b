import Wikidown.Charset.Name
import Wikidown.Failure
import Wikidown.Log
import Wikidown.Text.Blank

/-!
# Settings

The settings of a run, read from named variables. The encoding of sources is the first to be read,
then whether deleted text is struck through, then the level of the log; the first that cannot be read
is reported.
-/

namespace Wikidown

/-- The settings of a run. -/
structure Config where
  charset : String
  strikethrough : Bool
  level : Level
  region : Option String
  profile : Option String
deriving DecidableEq, Repr

namespace Config

/-- The name of an encoding, without the blanks around it. -/
def readCharset (source written : String) : Except Failure String :=
  let name := stripped written
  if name.contains '\x00' then .error (.fault .nullInName)
  else if (Charset.find? name).isSome then .ok name
  else .error (.config (.unknownCharset source written))

/-- The words that mean yes. -/
def trueWords : List String :=
  ["1", "true", "yes", "on"]

/-- The words that mean no. -/
def falseWords : List String :=
  ["0", "false", "no", "off"]

/-- A choice written as a word. -/
def readChoice (source written : String) : Except Failure Bool :=
  let word := Case.lower (stripped written)
  if trueWords.contains word then .ok true
  else if falseWords.contains word then .ok false
  else .error (.config (.notBoolean source written))

/-- The level of a name. -/
def readLevel (source written : String) : Except Failure Level :=
  match Level.ofName? (Case.upper (stripped written)) with
  | some l => .ok l
  | none => .error (.config (.unknownLevel source written))

/-- The variable for the encoding. -/
def charsetVariable : String :=
  "JIRAMD_CHARSET"

/-- The variable for struck-through text. -/
def strikethroughVariable : String :=
  "JIRAMD_STRIKETHROUGH"

/-- The variable for the level of the log. -/
def levelVariable : String :=
  "JIRAMD_LOG_LEVEL"

/-- The variable for the region of remote sources. -/
def regionVariable : String :=
  "JIRAMD_S3_REGION"

/-- The variable for the profile of remote sources. -/
def profileVariable : String :=
  "JIRAMD_S3_PROFILE"

/-- The settings that some variables give. -/
def ofVariables (environment : List (String × String)) : Except Failure Config := do
  let value := fun name usual => (environment.lookup name).getD usual
  let charset ← readCharset charsetVariable (value charsetVariable "UTF-8")
  let strikethrough ← readChoice strikethroughVariable (value strikethroughVariable "false")
  let level ← readLevel levelVariable (value levelVariable "WARNING")
  return ⟨charset, strikethrough, level, environment.lookup regionVariable,
    environment.lookup profileVariable⟩

/-- What a session with the store of remote sources is opened with: the settings that are not
empty. -/
def sessionSettings (c : Config) : List (String × String) :=
  [("profile_name", c.profile), ("region_name", c.region)].filterMap fun (name, value) =>
    value.bind fun v => if v = "" then none else some (name, v)

end Config

end Wikidown
