import Wikidown.Batch.Load
import Wikidown.Proofs.Jobs

/-!
# Absolute paths

An absolute path leads to the same location from every directory: the system walks along it from the
root, and so it is resolved, looked at and written in the same way wherever a session stands
(`FileTree.locate_of_isAbsolute`). What activities do with such paths is not changed as the session is
moved to another directory (`Session.moved`).
-/

namespace Wikidown

namespace Path

variable {p base : Path} {names : List String} {s : String}

@[simp] lemma isAbsolute_append : (p.append names).isAbsolute = p.isAbsolute :=
  rfl

@[simp] lemma isAbsolute_parent : p.parent.isAbsolute = p.isAbsolute :=
  rfl

/-- What is seen from an absolute path is absolute, whatever it is. -/
lemma isAbsolute_join (h : base.isAbsolute = true) : (base.join p).isAbsolute = true := by
  rw [join]
  split_ifs with hp
  · exact hp
  · exact h

/-- A string writes an absolute path if it begins with a slash. -/
lemma isAbsolute_ofString_iff : (ofString s).isAbsolute = true ↔ s.toList.head? = some '/' := by
  rw [ofString, isAbsolute, anchorOf]
  cases s.toList with
  | nil => simp
  | cons c cs =>
    by_cases hc : c = '/'
    · subst hc
      simp only [List.takeWhile_cons, List.head?_cons]
      split <;> simp_all
    · simp [hc]

/-- How an absolute path is written, an absolute path is written. -/
lemma isAbsolute_ofString_toString (h : p.isAbsolute = true) :
    (ofString p.toString).isAbsolute = true := by
  rw [isAbsolute_ofString_iff]
  obtain ⟨anchor, names⟩ := p
  cases anchor with
  | here => simp [isAbsolute] at h
  | root | doubleRoot => simp [toString, anchorText]

end Path

namespace FileTree

variable {t : FileTree} {p : Path} {content : Bytes}

lemma start_of_isAbsolute (cwd : Location) (h : p.isAbsolute = true) : start cwd p = [] :=
  if_pos h

section Directories

variable (t) (cwd cwd' : Location) (h : p.isAbsolute = true)
include h

lemma locate_of_isAbsolute (making : Bool) : t.locate cwd making p = t.locate cwd' making p := by
  rw [locate, locate, start_of_isAbsolute cwd h, start_of_isAbsolute cwd' h]

lemma look_of_isAbsolute : t.look cwd p = t.look cwd' p := by
  rw [look, look, locate_of_isAbsolute t cwd cwd' h]

lemma resolve_of_isAbsolute : t.resolve cwd p = t.resolve cwd' p := by
  have hlocation : t.resolveLocation cwd p = t.resolveLocation cwd' p := by
    rw [resolveLocation, resolveLocation, start_of_isAbsolute cwd h, start_of_isAbsolute cwd' h]
  -- the resolved path, which is looked at, is absolute too
  have hlook := look_of_isAbsolute t cwd cwd' (p := pathOf (t.resolveLocation cwd' p)) rfl
  rw [resolve, resolve, hlocation, hlook]

lemma makeDirectory_of_isAbsolute : t.makeDirectory cwd p = t.makeDirectory cwd' p := by
  have hparent := locate_of_isAbsolute t cwd cwd' (p := p.parent) h false
  rw [makeDirectory, makeDirectory, hparent]

lemma acceptDirectory_of_isAbsolute (o : Obstacle) :
    t.acceptDirectory cwd p o = t.acceptDirectory cwd' p o := by
  rw [acceptDirectory, acceptDirectory, leadsToDirectory, leadsToDirectory,
    look_of_isAbsolute t cwd cwd' h]

lemma ensureDirectory_of_isAbsolute : t.ensureDirectory cwd p = t.ensureDirectory cwd' p := by
  rw [ensureDirectory, ensureDirectory, makeDirectory_of_isAbsolute t cwd cwd' h]
  split
  · rfl
  · rfl
  · exact acceptDirectory_of_isAbsolute t cwd cwd' h _

lemma makeDirectories_of_isAbsolute : t.makeDirectories cwd p = t.makeDirectories cwd' p := by
  -- the recursion takes one name after the other from the end of the path
  induction hk : p.names.length generalizing p with
  | zero =>
    have hnames : p.names = [] := List.length_eq_zero_iff.1 hk
    rw [makeDirectories.eq_def t cwd p, makeDirectories.eq_def t cwd' p,
      makeDirectory_of_isAbsolute t cwd cwd' h]
    simp only [hnames, dite_true, acceptDirectory_of_isAbsolute t cwd cwd' h]
  | succ k ih =>
    have hlength : p.parent.names.length = k := by simp [Path.parent, hk]
    have habove : t.makeDirectories cwd p.parent = t.makeDirectories cwd' p.parent := ih h hlength
    have hensure (t : FileTree) := ensureDirectory_of_isAbsolute t cwd cwd' h
    rw [makeDirectories.eq_def t cwd p, makeDirectories.eq_def t cwd' p,
      makeDirectory_of_isAbsolute t cwd cwd' h,
      habove]
    simp only [hensure, acceptDirectory_of_isAbsolute t cwd cwd' h]

lemma writeFile_of_isAbsolute : t.writeFile cwd p content = t.writeFile cwd' p content := by
  rw [writeFile, writeFile, locate_of_isAbsolute t cwd cwd' h]

end Directories

end FileTree

/-! ## Sessions -/

/-- A session that stands in another directory. -/
def Session.moved (l : Location) (s : Session) : Session :=
  { s with current := l }

namespace Run

variable {s s' : Session} {l : Location} {p : Path} {content : Bytes} {markdown : CodeText} {u : Unit}
variable {event : Event}

/-- Nothing is put in front of an absolute path. -/
lemma expandHome_of_isAbsolute (h : p.isAbsolute = true) : expandHome p = pure p := by
  obtain ⟨anchor, names⟩ := p
  cases anchor with
  | here => simp [Path.isAbsolute] at h
  | root | doubleRoot => rfl

lemma resolve_moved (h : p.isAbsolute = true) : (resolve p).Ignores (Session.moved l) := by
  refine ignores_guard (ignores_get_bind (fun s => ?_) fun s => ?_)
  · have hresolve := FileTree.resolve_of_isAbsolute s.files l s.current h
    simp only [Session.moved, hresolve]
  · split
    · exact ignores_pure
    · exact ignores_throw

lemma readSpec_moved (h : p.isAbsolute = true) : (readSpec p).Ignores (Session.moved l) := by
  refine ignores_get_bind (fun s => ?_) fun s => ?_
  · have hlook := FileTree.look_of_isAbsolute s.files l s.current h
    simp only [Session.moved, hlook]
  · split
    · exact ignores_pure
    · exact ignores_throw
    · exact ignores_throw
    · exact ignores_throw.ite ignores_throw

lemma makeDirectories_moved (h : p.isAbsolute = true) :
    (makeDirectories p).Ignores (Session.moved l) := by
  refine ignores_guard (ignores_modifyGet fun s => ?_)
  have hmake := FileTree.makeDirectories_of_isAbsolute s.files l s.current h
  simp only [Session.moved, hmake]

lemma emit_moved : (emit event).Ignores (Session.moved l) :=
  ignores_modify fun s => (apply_ite (Session.moved l) (s.threshold ≤ event.level.number)
    { s with events := s.events ++ [event] } s).symm

/-- What is written along an absolute path is written in the same way from every directory. -/
lemma gives_writeFile_moved (h : p.isAbsolute = true) (hwrite : (writeFile markdown p).Gives s u s') :
    (writeFile markdown p).Gives (s.moved l) u (s'.moved l) := by
  obtain ⟨r, t, hmade, hwrite⟩ := gives_bind_iff.1 hwrite
  refine gives_bind_iff.2 ⟨r, t.moved l, (makeDirectories_moved (p := p.parent) h).gives hmade, ?_⟩
  cases r with
  | error e => exact absurd hwrite not_gives_throw
  | ok =>
    obtain ⟨_, t', htext, hemit⟩ := gives_bind_iff.1 hwrite
    obtain ⟨text, rfl, hbytes⟩ := gives_writeText_iff.1 htext
    obtain ⟨hnull, files, hfiles, rfl⟩ := gives_writeBytes_iff.1 hbytes
    rw [FileTree.writeFile_of_isAbsolute t.files t.current l h] at hfiles
    exact gives_bind_iff.2 ⟨(), _, gives_writeText_iff.2 ⟨text, rfl, gives_writeBytes_iff.2
      ⟨hnull, files, hfiles, rfl⟩⟩, emit_moved.gives hemit⟩

end Run

end Wikidown
