import Wikidown.Charset.Utf8
import Wikidown.Files.Path
import Wikidown.Files.Tree
import Wikidown.Text.Quoted

/-!
# Walking along paths

How the system finds the location that a path leads to: name by name, through symbolic links, up to
forty of them. The last name may be missing as long as its directory exists, since an entry can be
made there. On this stand the operations that look at an entry, make a directory and write a file.
-/

namespace Wikidown

/-- Why the system refuses a path. -/
inductive Obstacle
  | missing
  | denied
  | exists
  | notDirectory
  | isDirectory
  | nameTooLong
  | tooManyLinks
deriving DecidableEq, Repr

/-- The number of an obstacle. -/
def Obstacle.number : Obstacle → Nat
  | missing => 2
  | denied => 13
  | «exists» => 17
  | notDirectory => 20
  | isDirectory => 21
  | nameTooLong => 36
  | tooManyLinks => 40

/-- The description of an obstacle. -/
def Obstacle.description : Obstacle → String
  | missing => "No such file or directory"
  | denied => "Permission denied"
  | «exists» => "File exists"
  | notDirectory => "Not a directory"
  | isDirectory => "Is a directory"
  | nameTooLong => "File name too long"
  | tooManyLinks => "Too many levels of symbolic links"

/-- Whether an obstacle keeps a path from being looked at, so that it is not known if something is
there. -/
def Obstacle.hides : Obstacle → Bool
  | nameTooLong | denied => true
  | _ => false

/-- A path that the system refused, and why. -/
structure SystemError where
  obstacle : Obstacle
  path : Path
deriving DecidableEq, Repr

/-- The message of the system. -/
def SystemError.message (e : SystemError) : String :=
  s!"[Errno {e.obstacle.number}] {e.obstacle.description}: {Quoted.quoted e.path.toString}"

namespace FileTree

/-- How many links one walk may follow. -/
def maxLinks : Nat :=
  40

/-- How many bytes a name may have. -/
def maxName : Nat :=
  255

/-- How many bytes a path may have, with its end mark. -/
def maxPath : Nat :=
  4096

/-- The number of bytes of a string. -/
def byteLength (s : String) : Nat :=
  (Utf8.encode s.toList).length

/-- The mark that a directory has to be at the end of a path, as the slash there asks for. -/
def directoryMark : String :=
  ""

/-- What a link's target asks for behind its last name. -/
def targetEnd (target : String) : List String :=
  match (target.toList.splitOn '/').getLast? with
  | some [] => [directoryMark]
  | some ['.'] => ["."]
  | _ => []

/-- The names of a link's target. -/
def targetNames (target : String) : List String :=
  Path.namesOf target.toList ++ targetEnd target

/-- Where the walk along a link's target begins. -/
def targetStart (here : Location) (target : String) : Location :=
  if (Path.ofString target).isAbsolute then [] else here

/-- Walks along names from a directory. The last name may be missing; where a file is to be made, a
directory that is asked for in its place is refused. -/
def walk (t : FileTree) (making : Bool) (links : Nat) (here : Location) :
    List String → Except Obstacle Location
  | [] => .ok here
  | n :: rest =>
    match t.get? here with
    | none => .error .missing
    | some (.file _) | some (.link _) | some (.barred false) => .error .notDirectory
    | some (.barred true) =>
      if n = directoryMark then walk t making links here rest else .error .denied
    | some .directory =>
      if n = "." ∨ n = directoryMark then walk t making links here rest
      else if n = ".." then walk t making links here.dropLast rest
      else if making ∧ rest = [directoryMark] then .error .isDirectory
      else if maxName < byteLength n then .error .nameTooLong
      else
        match t.get? (here ++ [n]) with
        | none => if rest = [] then .ok (here ++ [n]) else .error .missing
        | some (.link target) =>
          match links with
          | 0 => .error .tooManyLinks
          | k + 1 => walk t making k (targetStart here target) (targetNames target ++ rest)
        | some _ => walk t making links (here ++ [n]) rest
termination_by names => (links, names.length)

/-- The directory in which a path begins. -/
def start (cwd : Location) (p : Path) : Location :=
  if p.isAbsolute then [] else cwd

/-- The location that a path leads to. -/
def locate (t : FileTree) (cwd : Location) (making : Bool) (p : Path) : Except Obstacle Location :=
  if maxPath ≤ byteLength p.toString then .error .nameTooLong
  else t.walk making maxLinks (start cwd p) p.names

/-- The entry that a path leads to, links followed. -/
def look (t : FileTree) (cwd : Location) (p : Path) : Except Obstacle Entry :=
  (t.locate cwd false p).bind fun l =>
    match t.get? l with
    | some e => .ok e
    | none => .error .missing

/-- Makes a directory where a path leads; its parent has to be there. -/
def makeDirectory (t : FileTree) (cwd : Location) (p : Path) : Except Obstacle FileTree :=
  match p.names.getLast? with
  | none => .error .exists
  | some n =>
    if maxPath ≤ byteLength p.toString then .error .nameTooLong else
    (t.locate cwd false p.parent).bind fun parent =>
      match t.get? parent with
      | none => .error .missing
      | some (.file _) | some (.link _) | some (.barred false) => .error .notDirectory
      | some (.barred true) => .error .denied
      | some .directory =>
        if n = ".." then .error .exists
        else if maxName < byteLength n then .error .nameTooLong
        else if (t.get? (parent ++ [n])).isSome then .error .exists
        else .ok (t.set (parent ++ [n]) .directory)

/-- Whether a path leads to a directory, if it can be looked at. -/
def leadsToDirectory (t : FileTree) (cwd : Location) (p : Path) : Except Obstacle Bool :=
  match t.look cwd p with
  | .ok .directory | .ok (.barred true) => .ok true
  | .ok _ => .ok false
  | .error o => if o.hides then .error o else .ok false

/-- A directory that could not be made is none if it is there already. -/
def acceptDirectory (t : FileTree) (cwd : Location) (p : Path) (o : Obstacle) :
    Except SystemError FileTree :=
  match t.leadsToDirectory cwd p with
  | .ok true => .ok t
  | .ok false => .error ⟨o, p⟩
  | .error o => .error ⟨o, p⟩

/-- Makes one directory of a path, if it is not there. -/
def ensureDirectory (t : FileTree) (cwd : Location) (p : Path) : Except SystemError FileTree :=
  match t.makeDirectory cwd p with
  | .ok t => .ok t
  | .error .missing => .error ⟨.missing, p⟩
  | .error o => t.acceptDirectory cwd p o

/-- Makes a directory and those above it that are missing. The second part of the answer is the tree
as far as it was made. -/
def makeDirectories (t : FileTree) (cwd : Location) (p : Path) :
    Except SystemError Unit × FileTree :=
  match t.makeDirectory cwd p with
  | .ok t => (.ok (), t)
  | .error .missing =>
    if _h : p.names = [] then (.error ⟨.missing, p⟩, t) else
    match makeDirectories t cwd p.parent with
    | (.error e, t) => (.error e, t)
    | (.ok (), t) =>
      match t.ensureDirectory cwd p with
      | .ok t => (.ok (), t)
      | .error e => (.error e, t)
  | .error o =>
    match t.acceptDirectory cwd p o with
    | .ok t => (.ok (), t)
    | .error e => (.error e, t)
termination_by p.names.length
decreasing_by
  have := List.length_pos_iff.2 _h
  simp only [Path.parent, List.length_dropLast]
  omega

/-- What keeps a file from being written where an entry stands. -/
def guard? : Entry → Option Obstacle
  | .directory | .barred true => some .isDirectory
  | .barred false => some .denied
  | .file _ | .link _ => none

/-- Writes a file where a path leads, links followed; the file is made if it is not there. -/
def writeFile (t : FileTree) (cwd : Location) (p : Path) (content : Bytes) :
    Except Obstacle FileTree :=
  (t.locate cwd true p).bind fun l =>
    match (t.get? l).bind guard? with
    | some o => .error o
    | none => .ok (t.set l (.file content))

end FileTree

end Wikidown
