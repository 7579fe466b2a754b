import Wikidown.Config
import Wikidown.Files.Resolve

/-!
# Sessions

What runs one after the other see and change: the files, the variables, the store of remote objects,
and what has been written. A run may fail; what it did before stays done. The names of files, variables
and accounts are texts of characters, without lone surrogates; the standard output takes UTF-8.
-/

namespace Wikidown

/-- A request to the store of remote objects. -/
inductive Request
  | openSession (settings : List (String × String))
  | openClient
  | getObject (bucket key : String)
deriving DecidableEq, Repr

/-- What runs see and change. Remote objects are named by bucket and key; there are none if the store
cannot be reached at all. The reader of YAML gives a document's value, or fails. -/
structure Session where
  files : FileTree
  current : Location
  environment : List (String × String)
  /-- The home directory of the account that runs, and those of all accounts by name. -/
  ownHome : Option String
  homes : List (String × String)
  objects : Option (List ((String × String) × Bytes))
  yaml : Text → Except Yaml.Trouble Value
  threshold : Nat
  output : String
  complaints : String
  events : List Event
  requests : List Request

/-- An activity in a session. -/
abbrev Run :=
  ExceptT Failure (StateM Session)

namespace Run

/-- Stops because of what the surroundings refuse. -/
def refuse {α : Type} (f : Fault) : Run α :=
  throw (.fault f)

/-- Goes on with a result that may be a failure. -/
def ofExcept {α : Type} : Except Failure α → Run α
  | .ok a => return a
  | .error e => throw e

/-- Reports an event, if it reaches the threshold. -/
def emit (e : Event) : Run Unit :=
  modify fun s => if s.threshold ≤ e.level.number then { s with events := s.events ++ [e] } else s

/-- Prints a line. -/
def printLine (line : String) : Run Unit :=
  modify fun s => { s with output := s.output ++ line ++ "\n" }

/-- Prints a text as a line. A text with lone surrogates cannot be printed. -/
def printText (s : CodeText) : Run Unit :=
  match s.scalars with
  | .ok line => printLine (String.ofList line)
  | .error run => refuse (.unencodable run)

/-- Sends a request to the store of remote objects. -/
def request (r : Request) : Run Unit :=
  modify fun s => { s with requests := s.requests ++ [r] }

/-- The settings that the variables of the session give. -/
def config : Run Config := do
  ofExcept (Config.ofVariables (← get).environment)

/-- A directory's name without the slashes at its end. -/
def withoutSlashes (s : String) : String :=
  String.ofList (s.toList.reverse.dropWhile (· == '/')).reverse

/-- The home directory that is meant by a name that begins with a tilde. -/
def home (name : String) : Run String := do
  if name.contains '\x00' then refuse .nullInPath
  let s ← get
  let directory :=
    if name = "~" then s.environment.lookup "HOME" <|> s.ownHome
    else s.homes.lookup (String.ofList name.toList.tail)
  match directory with
  | none => refuse .unknownHome
  | some d =>
    let d := withoutSlashes d
    let d := if d = "" then "/" else d
    if d.startsWith "~" then refuse .unknownHome else return d

/-- A path whose first name, if it begins with a tilde, is replaced by a home directory. -/
def expandHome (p : Path) : Run Path := do
  match p.anchor, p.names with
  | .here, n :: rest =>
    if n.startsWith "~" then return (Path.ofString (← home n)).append rest else return p
  | _, _ => return p

/-- The resolved form of a path. -/
def resolve (p : Path) : Run Path := do
  if p.hasNull then refuse .nullInPath
  let s ← get
  match s.files.resolve s.current p with
  | .ok p => return p
  | .error e => refuse (.linkLoop e.path)

end Run

end Wikidown
