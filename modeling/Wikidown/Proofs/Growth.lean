import Mathlib.Data.Set.Lattice
import Mathlib.Tactic.Lemma
import Wikidown.Files.Resolve

/-!
# Growing trees

Programs that make directories and write files let a tree grow: directories come where nothing was,
files come or change at certain locations, and all else stays (`FileTree.Grows`). A new directory and
a file that is written let a tree grow, as long as they are put into a directory and the file takes
no link's place (`grows_set_directory`, `grows_set_file`).
-/

namespace Wikidown

namespace FileTree

/-- The content of the regular file at a location. -/
def fileAt? (t : FileTree) (l : Location) : Option Bytes :=
  match t.get? l with
  | some (.file content) => some content
  | _ => none

/-- Every entry stands in a directory. -/
def Rooted (t : FileTree) : Prop :=
  ∀ e ∈ t.entries, t.get? e.1.dropLast = some .directory

instance (t : FileTree) : Decidable t.Rooted :=
  inferInstanceAs (Decidable (∀ e ∈ t.entries, t.get? e.1.dropLast = some .directory))

/-- What may become of an entry: it stays, a directory comes where nothing was, or, if writing is
allowed, a file comes there or changes. -/
inductive Becomes (writable : Prop) : Option Entry → Option Entry → Prop
  | same (e : Option Entry) : Becomes writable e e
  | made : Becomes writable none (some .directory)
  | created (h : writable) (content : Bytes) : Becomes writable none (some (.file content))
  | changed (h : writable) (old new : Bytes) :
    Becomes writable (some (.file old)) (some (.file new))

/-- A tree grows to another one: its entries become those of the other, and files are written at the
given locations only. -/
structure Grows (w : Set Location) (t t' : FileTree) : Prop where
  entry : ∀ l, Becomes (l ∈ w) (t.get? l) (t'.get? l)
  links : t'.countLinks = t.countLinks
  rooted : t.Rooted → t'.Rooted

variable {t t' t'' : FileTree} {w w' : Set Location} {l m : Location} {e : Entry} {content : Bytes}

@[simp] lemma get?_nil : t.get? [] = some .directory := by
  simp [get?]

lemma fileAt?_eq_some_iff : t.fileAt? l = some content ↔ t.get? l = some (.file content) := by
  unfold fileAt?
  split <;> simp_all

/-- Where a file can be written there is no directory. -/
lemma get?_ne_directory_of_guard? (h : (t.get? l).bind guard? = none) :
    t.get? l ≠ some .directory := by
  rintro hd
  simp [hd, guard?] at h

lemma ne_nil_of_get? (h : t.get? l ≠ some .directory) : l ≠ [] := by
  rintro rfl
  exact h get?_nil

/-! ## Entries -/

namespace Becomes

variable {p q : Prop} {a b c : Option Entry}

lemma mono (h : Becomes p a b) (hpq : p → q) : Becomes q a b := by
  cases h with
  | same => exact .same a
  | made => exact .made
  | created hp content => exact .created (hpq hp) content
  | changed hp old new => exact .changed (hpq hp) old new

lemma trans (h : Becomes p a b) (h' : Becomes p b c) : Becomes p a c := by
  cases h with
  | same => exact h'
  | made => cases h' with | same => exact .made
  | created hp content =>
    cases h' with
    | same => exact .created hp content
    | changed _ _ new => exact .created hp new
  | changed hp old content =>
    cases h' with
    | same => exact .changed hp old content
    | changed _ _ new => exact .changed hp old new

lemma link_iff (h : Becomes p a b) {target : String} :
    b = some (.link target) ↔ a = some (.link target) := by
  cases h <;> simp

lemma directory (h : Becomes p a b) (ha : a = some .directory) : b = some .directory := by
  cases h <;> simp_all

lemma barred (h : Becomes p a b) {isDirectory : Bool} (ha : a = some (.barred isDirectory)) :
    b = some (.barred isDirectory) := by
  cases h <;> simp_all

end Becomes

namespace Grows

lemma refl (t : FileTree) : Grows w t t :=
  ⟨fun _ => .same _, rfl, id⟩

lemma trans (h : Grows w t t') (h' : Grows w t' t'') : Grows w t t'' :=
  ⟨fun l => (h.entry l).trans (h'.entry l), h'.links.trans h.links, h'.rooted ∘ h.rooted⟩

lemma mono (h : Grows w t t') (hw : w ⊆ w') : Grows w' t t' :=
  ⟨fun l => (h.entry l).mono fun hl => hw hl, h.links, h.rooted⟩

lemma fileAt?_eq (h : Grows w t t') (hl : l ∉ w) : t'.fileAt? l = t.fileAt? l := by
  have hentry := h.entry l
  unfold fileAt?
  generalize t.get? l = a at hentry ⊢
  generalize t'.get? l = b at hentry ⊢
  cases hentry with
  | same => rfl
  | made => rfl
  | created hw => exact absurd hw hl
  | changed hw => exact absurd hw hl

/-- Where no file is written, an entry stays, or a directory comes where nothing was. -/
lemma get?_eq_or (h : Grows w t t') (hl : l ∉ w) :
    t'.get? l = t.get? l ∨ t.get? l = none ∧ t'.get? l = some .directory := by
  have hentry := h.entry l
  generalize t.get? l = a at hentry ⊢
  generalize t'.get? l = b at hentry ⊢
  cases hentry with
  | same => exact .inl rfl
  | made => exact .inr ⟨rfl, rfl⟩
  | created hw => exact absurd hw hl
  | changed hw => exact absurd hw hl

end Grows

/-! ## New entries -/

/-- Entries of one kind are as many as before if neither the new entry nor the one that it replaces is
of that kind. -/
lemma countP_put {P : Location × Entry → Bool} {es : List (Location × Entry)} (hnew : P (l, e) = false)
    (hold : ∀ old, es.lookup l = some old → P (l, old) = false) :
    (put (l, e) es).countP P = es.countP P := by
  induction es with
  | nil => simp [put, hnew]
  | cons x es ih =>
    obtain ⟨k, old⟩ := x
    by_cases hk : k = l
    · subst hk
      have hP : P (k, old) = false := hold old (by simp)
      simp [put, hnew, hP]
    · have hlk : (l == k) = false := by simpa using Ne.symm hk
      simp only [List.lookup_cons, hlk] at hold
      simp only [put, hk, if_false, List.countP_cons, ih hold]

lemma countLinks_set (hl : l ≠ []) (ht : ∀ target, t.get? l ≠ some (.link target))
    (he : ∀ target, e ≠ .link target) : (t.set l e).countLinks = t.countLinks := by
  rw [countLinks, set, countP_put, countLinks]
  · cases e with
    | link target => exact absurd rfl (he target)
    | file | directory | barred => rfl
  · intro old hold
    cases old with
    | link target => exact absurd (by simpa [get?, hl] using hold) (ht target)
    | file | directory | barred => rfl

lemma mem_entries_put {x y : Location × Entry} {es : List (Location × Entry)} (h : x ∈ put y es) :
    x = y ∨ x ∈ es := by
  induction es with
  | nil => exact .inl (by simpa [put] using h)
  | cons z es ih =>
    rw [put] at h
    split at h
    · exact (List.mem_cons.1 h).imp_right (List.mem_cons_of_mem z)
    · rcases List.mem_cons.1 h with rfl | h
      · exact .inr List.mem_cons_self
      · exact (ih h).imp_right (List.mem_cons_of_mem z)

lemma Rooted.set (h : t.Rooted) (hl : t.get? l.dropLast = some .directory)
    (hd : t.get? l ≠ some .directory) : (t.set l e).Rooted := by
  have hkeep : ∀ m, t.get? m = some .directory → (t.set l e).get? m = some .directory := by
    intro m hm
    rw [get?_set_of_ne (by rintro rfl; exact hd hm), hm]
  intro x hx
  rcases mem_entries_put hx with rfl | hx
  · exact hkeep _ hl
  · exact hkeep _ (h x hx)

lemma Rooted.parent (h : t.Rooted) (hl : t.get? l = some e) :
    t.get? l.dropLast = some .directory := by
  by_cases hnil : l = []
  · simp [hnil]
  · simp only [get?, hnil, if_false, List.lookup_eq_some_iff] at hl
    obtain ⟨front, back, hentries, -⟩ := hl
    exact h (l, e) (by simp [hentries])

/-- A new directory lets a tree grow, and no file is written. -/
lemma grows_set_directory (hl : t.get? l.dropLast = some .directory) (ht : t.get? l = none) :
    Grows w t (t.set l .directory) := by
  have hnil : l ≠ [] := ne_nil_of_get? (t := t) (by simp [ht])
  refine ⟨fun m => ?_, countLinks_set hnil (by simp [ht]) (by simp), fun h => h.set hl (by simp [ht])⟩
  by_cases hm : m = l
  · rw [hm, get?_set_self hnil, ht]
    exact .made
  · rw [get?_set_of_ne hm]
    exact .same _

/-- A file that is written where it can be, and where no link is, lets a tree grow. -/
lemma grows_set_file (hl : t.get? l.dropLast = some .directory)
    (hlink : ∀ target, t.get? l ≠ some (.link target)) (hfree : (t.get? l).bind guard? = none) :
    Grows {l} t (t.set l (.file content)) := by
  have hd : t.get? l ≠ some .directory := get?_ne_directory_of_guard? hfree
  have hnil : l ≠ [] := ne_nil_of_get? hd
  refine ⟨fun m => ?_, countLinks_set hnil hlink (by simp), fun h => h.set hl hd⟩
  by_cases hm : m = l
  · rw [hm, get?_set_self hnil]
    cases hget : t.get? l with
    | none => exact .created rfl content
    | some old =>
      cases old with
      | file old => exact .changed rfl old content
      | directory => exact absurd hget hd
      | link target => exact absurd hget (hlink target)
      | barred isDirectory => cases isDirectory <;> simp [hget, guard?] at hfree
  · rw [get?_set_of_ne hm]
    exact .same _

end FileTree

end Wikidown
