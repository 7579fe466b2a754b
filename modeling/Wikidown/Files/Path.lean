/-!
# Paths

A path begins at the current directory, at the root, or at the root written with two slashes, and
names one entry after the other. Reading a path drops empty names and single dots; `..` stays. Main
statements: joining with an absolute path gives that path (`join_of_isAbsolute`), and a path made by
adding names keeps its beginning (`anchor_append`).
-/

namespace Wikidown

/-- Where a path begins. -/
inductive Anchor
  | here
  | root
  | doubleRoot
deriving DecidableEq, Repr

/-- A path: where it begins, and the names from there on. -/
structure Path where
  anchor : Anchor
  names : List String
deriving DecidableEq, Repr

namespace Path

/-- The beginning that the slashes in front of a path show: exactly two of them are kept. -/
def anchorOf (cs : List Char) : Anchor :=
  match (cs.takeWhile (· == '/')).length with
  | 0 => .here
  | 2 => .doubleRoot
  | _ => .root

/-- The names between the slashes, without empty ones and single dots. -/
def namesOf (cs : List Char) : List String :=
  ((cs.splitOn '/').filter fun n => n != [] && n != ['.']).map String.ofList

/-- The path that a string writes. -/
def ofString (s : String) : Path :=
  ⟨anchorOf s.toList, namesOf s.toList⟩

/-- How the beginning is written. -/
def anchorText : Anchor → String
  | .here => ""
  | .root => "/"
  | .doubleRoot => "//"

/-- How a path is written; the current directory is a dot. -/
def toString (p : Path) : String :=
  if p.anchor = .here ∧ p.names = [] then "." else anchorText p.anchor ++ "/".intercalate p.names

instance : ToString Path :=
  ⟨Path.toString⟩

/-- An absolute path begins at the root. -/
def isAbsolute (p : Path) : Bool :=
  p.anchor != .here

/-- The path with further names. -/
def append (p : Path) (names : List String) : Path :=
  { p with names := p.names ++ names }

/-- A path seen from another one; an absolute path stays as it is. -/
def join (base p : Path) : Path :=
  if p.isAbsolute then p else base.append p.names

/-- The path without its last name. -/
def parent (p : Path) : Path :=
  { p with names := p.names.dropLast }

/-- The last name, empty if there is none. -/
def name (p : Path) : String :=
  p.names.getLast?.getD ""

/-- A name without its last suffix: a dot that is neither the first nor the last character begins
it. -/
def stemOf (name : List Char) : List Char :=
  let suffix := (name.reverse.takeWhile (· != '.')).length
  if 0 < suffix ∧ suffix + 1 < name.length then name.take (name.length - suffix - 1) else name

/-- The last name without its suffix. -/
def stem (p : Path) : String :=
  String.ofList (stemOf p.name.toList)

/-- Whether a path, as it is written, holds the null character. -/
def hasNull (p : Path) : Bool :=
  p.names.any fun n => n.toList.contains '\x00'

theorem join_of_isAbsolute {base p : Path} (h : p.isAbsolute = true) : base.join p = p := by
  simp [join, h]

@[simp] theorem anchor_append (p : Path) (names : List String) :
    (p.append names).anchor = p.anchor := rfl

@[simp] theorem parent_append_singleton (p : Path) (n : String) :
    (p.append [n]).parent = p := by
  simp [append, parent]

end Path

end Wikidown
