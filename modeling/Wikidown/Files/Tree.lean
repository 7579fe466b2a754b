import Wikidown.Charset.Reading

/-!
# File trees

A file system as a value: regular files, directories and symbolic links at locations, and what may
not be opened. A location lists the names from the root down to the entry, with no link among the
directories on the way.
Main statements: `get?_set_self` and `get?_set_of_ne`.
-/

namespace Wikidown

/-- The names from the root down to an entry. -/
abbrev Location := List String

/-- What can stand at a location. Of a barred entry it is only known whether it is a directory: a
directory that may not be entered, or a file that may not be opened. -/
inductive Entry
  | file (content : Bytes)
  | directory
  | link (target : String)
  | barred (isDirectory : Bool)
deriving DecidableEq

/-- The entries below the root, each at its location. -/
structure FileTree where
  entries : List (Location × Entry)

namespace FileTree

/-- The tree that holds the root alone. -/
def empty : FileTree :=
  ⟨[]⟩

/-- The entry at a location; the root is a directory. -/
def get? (t : FileTree) (l : Location) : Option Entry :=
  if l = [] then some .directory else t.entries.lookup l

/-- The entries with the one at a location replaced, or added if there is none. -/
def put (entry : Location × Entry) : List (Location × Entry) → List (Location × Entry)
  | [] => [entry]
  | e :: es => if e.1 = entry.1 then entry :: es else e :: put entry es

/-- The tree with an entry at a location. -/
def set (t : FileTree) (l : Location) (e : Entry) : FileTree :=
  ⟨put (l, e) t.entries⟩

/-- The tree without a location and all below it. -/
def remove (t : FileTree) (l : Location) : FileTree :=
  ⟨t.entries.filter fun e => !l.isPrefixOf e.1⟩

/-- Whether a directory is at a location. -/
def isDirectory (t : FileTree) (l : Location) : Bool :=
  t.get? l == some .directory

theorem lookup_put_self (l : Location) (e : Entry) (es : List (Location × Entry)) :
    (put (l, e) es).lookup l = some e := by
  induction es with
  | nil => simp [put]
  | cons x es ih =>
    obtain ⟨k, v⟩ := x
    by_cases h : k = l
    · simp [put, h]
    · have hl : (l == k) = false := by simpa using Ne.symm h
      simp [put, h, List.lookup_cons, hl, ih]

theorem lookup_put_of_ne {l m : Location} (h : m ≠ l) (e : Entry) (es : List (Location × Entry)) :
    (put (l, e) es).lookup m = es.lookup m := by
  have hm : (m == l) = false := by simpa using h
  induction es with
  | nil => simp [put, List.lookup_cons, hm]
  | cons x es ih =>
    obtain ⟨k, v⟩ := x
    by_cases hx : k = l
    · simp [put, List.lookup_cons, hm, hx]
    · simp [put, hx, List.lookup_cons, ih]

theorem get?_set_self {t : FileTree} {l : Location} (hl : l ≠ []) (e : Entry) :
    (t.set l e).get? l = some e := by
  simp [get?, set, hl, lookup_put_self]

theorem get?_set_of_ne {t : FileTree} {l m : Location} (h : m ≠ l) (e : Entry) :
    (t.set l e).get? m = t.get? m := by
  simp [get?, set, lookup_put_of_ne h]

end FileTree

end Wikidown
