import Wikidown.Files.Walk

/-!
# Resolved paths

The absolute form of a path: links followed as far as they lead, `..` gone, and names that are not
there kept. A link that leads back to itself cannot be followed; the path is then left as it is from
that link on.
-/

namespace Wikidown.FileTree

/-- A path followed as far as possible: the location reached, and the names that were left over. -/
structure Trail where
  location : Location
  left : List String

/-- How many links a tree has. -/
def countLinks (t : FileTree) : Nat :=
  t.entries.countP fun e => e.2 matches .link _

/-- Follows names from a location, inside the targets of the links in `visiting`, at most `depth` more
of them. -/
def follow (t : FileTree) : (depth : Nat) → (visiting : List Location) → (here : Location) →
    (names : List String) → Trail
  | _, _, here, [] => ⟨here, []⟩
  | depth, visiting, here, n :: rest =>
    if n = "." ∨ n = directoryMark then follow t depth visiting here rest
    else if n = ".." then follow t depth visiting here.dropLast rest
    else
      match t.get? (here ++ [n]) with
      | some (.link target) =>
        if visiting.contains (here ++ [n]) then ⟨here, n :: rest⟩ else
        match depth with
        | 0 => ⟨here, n :: rest⟩
        | depth + 1 =>
          let inner := follow t depth ((here ++ [n]) :: visiting) (targetStart here target)
            (targetNames target)
          if inner.left = [] then follow t (depth + 1) visiting inner.location rest
          else ⟨inner.location, inner.left ++ rest⟩
      | _ => follow t depth visiting (here ++ [n]) rest
termination_by depth _ _ names => (depth, names.length)

/-- Takes `..` as going back one name. -/
def flatten (here : Location) (names : List String) : Location :=
  let enter := fun (l : Location) n =>
    if n = "." ∨ n = directoryMark then l else if n = ".." then l.dropLast else l ++ [n]
  names.foldl enter here

/-- The location that a path has in the end, whether something is there or not. -/
def resolveLocation (t : FileTree) (cwd : Location) (p : Path) : Location :=
  let trail := t.follow t.countLinks [] (start cwd p) p.names
  flatten trail.location trail.left

/-- The absolute path of a location. -/
def pathOf (l : Location) : Path :=
  ⟨.root, l⟩

/-- The resolved path, unless links on it lead in a circle. -/
def resolve (t : FileTree) (cwd : Location) (p : Path) : Except SystemError Path :=
  let resolved := pathOf (t.resolveLocation cwd p)
  match t.look cwd resolved with
  | .error .tooManyLinks => .error ⟨.tooManyLinks, resolved⟩
  | _ => .ok resolved

end Wikidown.FileTree
