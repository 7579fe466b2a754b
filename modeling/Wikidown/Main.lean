import Wikidown.Command.Reach
import Wikidown.Log.Line
import Wikidown.Yaml.Value

/-!
# The program

The command in the system it runs in. The files that the command line reaches are copied into a
session, the command is carried out there, and what it changed is written back. What may not be opened
is barred in the session. There is no store of remote objects.
-/

namespace Wikidown.Main

/-- The location of an absolute path that the system gives. -/
def locationOf (path : String) : Location :=
  Path.namesOf path.toList

/-- How a location is written for the system. -/
def textOf (l : Location) : String :=
  (FileTree.pathOf l).toString

/-- What is at a location: nothing, what may not be looked at, or something of a certain kind. -/
inductive Kind
  | nothing
  | hidden
  | known (type : IO.FS.FileType)

/-- What is at a location. -/
def kindAt (l : Location) : IO Kind := do
  let root ← IO.FS.realPath "/"
  match ← (root / textOf l).symlinkMetadata.toBaseIO with
  | .ok m => return .known m.type
  | .error (.permissionDenied ..) => return .hidden
  | .error _ => return .nothing

/-- The file at a location. -/
def fileAt (l : Location) : IO Entry := do
  match ← (IO.FS.readBinFile (textOf l)).toBaseIO with
  | .ok content => return .file content.toList
  | .error _ => return .barred false

/-- Copies into a tree what stands along some names, and what the links among them lead to. What is
neither a file nor a directory counts as `special`. -/
partial def copyPath (special : Entry) (t : FileTree) (here : Location) :
    List String → IO FileTree
  | [] => return t
  | n :: rest => do
    if n = "." ∨ n = FileTree.directoryMark then copyPath special t here rest
    else if n = ".." then copyPath special t here.dropLast rest
    else
      let l := here ++ [n]
      match ← kindAt l with
      | .nothing => return t
      | .hidden => return if here = [] then t else t.set here (.barred true)
      | .known .dir => copyPath special (t.set l .directory) l rest
      | .known .file => return t.set l (← fileAt l)
      | .known .other => return t.set l special
      | .known .symlink =>
        let target := (← IO.FS.realPath (textOf l)).toString
        let t := t.set l (.link target)
        if locationOf target = l then return t
        else copyPath special t [] (locationOf target ++ rest)

/-- Copies into a session what the given paths lead to. What is read has to be a regular file; what is
written need not be. -/
def copyReach (s : Session) (r : Command.Reach) : IO Session := do
  let copy := fun special (t : FileTree) (p : Path) =>
    copyPath special t [] (if p.isAbsolute then p.names else s.current ++ p.names)
  let files ← r.sources.foldlM (copy .directory) s.files
  let files ← r.outputs.foldlM (copy (.file [])) files
  return { s with files := files }

/-- The variables that a run looks at. -/
def variableNames : List String :=
  ["HOME", Config.charsetVariable, Config.strikethroughVariable, Config.levelVariable,
    Config.regionVariable, Config.profileVariable]

/-- The values of the variables that are set. -/
def environment : IO (List (String × String)) := do
  let found ← variableNames.mapM fun name => do
    return (← IO.getEnv name).map (name, ·)
  return found.filterMap id

/-- The home directories that a table of accounts lists: the name is the first field of a line, the
directory the sixth. -/
def homesOf (table : String) : List (String × String) :=
  (table.splitOn "\n").filterMap fun line =>
    match line.splitOn ":" with
    | name :: _ :: _ :: _ :: _ :: directory :: _ => some (name, directory)
    | _ => none

/-- The home directories of all accounts. -/
def homes : IO (List (String × String)) := do
  match ← (IO.FS.readFile "/etc/passwd").toBaseIO with
  | .ok table => return homesOf table
  | .error _ => return []

/-- The session in which the program starts. -/
def start : IO Session := do
  let homes ← homes
  let user ← IO.getEnv "USER"
  let current := locationOf (← IO.currentDir).toString
  let s : Session :=
    { files := .empty
      current := current
      environment := ← environment
      ownHome := user.bind fun name => homes.lookup name
      homes := homes
      objects := none
      yaml := Yaml.read
      threshold := Level.warning.number
      output := ""
      complaints := ""
      events := []
      requests := [] }
  copyReach s ⟨[⟨.here, []⟩], []⟩

/-- Copies what a command line reaches: first what it names, then what its batch specification
names. -/
def prepare (args : List String) (s : Session) : IO Session := do
  match Command.readInvocation args with
  | .error _ => return s
  | .ok i =>
    let s ← copyReach s (Command.Reach.find (Command.Reach.ofTask i.task) s)
    copyReach s (Command.Reach.find (Command.Reach.ofTaskJobs i) s)

/-- Writes back what a run changed. -/
def writeBack (before after : FileTree) : IO Unit :=
  after.entries.forM fun (l, e) => do
    if before.get? l == some e then return
    match e with
    | .directory => IO.FS.createDirAll (textOf l)
    | .file content => IO.FS.writeBinFile (textOf l) content.toByteArray
    | .link _ | .barred _ => return

/-- Carries out a command line and gives the status. -/
def execute (args : List String) : IO UInt32 := do
  let before ← prepare args (← start)
  let (result, after) := (Command.run args).run before
  writeBack before.files after.files
  let output ← IO.getStdout
  output.putStr after.output
  output.flush
  let complaints ← IO.getStderr
  after.events.forM fun e => complaints.putStrLn e.line
  complaints.putStr after.complaints
  match result with
  | .ok status => return status.toUInt32
  | .error e =>
    complaints.putStrLn e.message
    return Command.failed.toUInt32

end Wikidown.Main

/-- The program. -/
def main (args : List String) : IO UInt32 :=
  Wikidown.Main.execute args
