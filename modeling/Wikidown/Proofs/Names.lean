import Mathlib.Data.List.Induction
import Wikidown.Proofs.Writing

/-!
# Names of entries

A name that the system can give to an entry is no step to a directory that is there already, holds no
slash and is not too long. Along a path the system meets such names only (`FileTree.Walked.nameable`),
so the resolved form of a path that leads to a file can be walked along too, unless it is too long as a
whole (`FileTree.look_resolved`).
-/

namespace Wikidown

namespace FileTree

variable {t : FileTree} {here l cwd : Location} {names : List String} {n : String} {links : Nat}
variable {making : Bool} {p : Path} {e : Entry} {content : Bytes}

instance : DecidablePred Proper := fun n =>
  inferInstanceAs (Decidable (¬ (n = "." ∨ n = directoryMark) ∧ n ≠ ".."))

/-- An entry can have a name. -/
def Nameable (n : String) : Prop :=
  Proper n ∧ byteLength n ≤ maxName

instance : DecidablePred Nameable := fun n =>
  inferInstanceAs (Decidable (Proper n ∧ byteLength n ≤ maxName))

lemma Walked.nameable (h : t.Walked making links here names l) (hhere : ∀ n ∈ here, Nameable n) :
    ∀ n ∈ l, Nameable n := by
  have henter {here : Location} {n : String} (hhere : ∀ n ∈ here, Nameable n) (hn : Proper n)
      (hlength : ¬ maxName < byteLength n) : ∀ m ∈ here ++ [n], Nameable m := by
    refine List.forall_mem_append.2 ⟨hhere, List.forall_mem_singleton.2 ⟨hn, ?_⟩⟩
    omega
  induction h with
  | done => exact hhere
  | stay _ _ _ ih => exact ih hhere
  | mark _ _ ih => exact ih hhere
  | up _ _ ih => exact ih fun n hn => hhere n (List.dropLast_subset _ hn)
  | last _ hn hlength => exact henter hhere hn hlength
  | enter _ hn _ hlength _ _ _ ih => exact ih (henter hhere hn hlength)
  | link _ _ _ _ _ _ ih =>
    refine ih ?_
    rw [targetStart]
    split
    · simp
    · exact hhere

/-- Above an entry there are directories only. -/
lemma Rooted.directory_of_append (hr : t.Rooted) (hnames : names ≠ [])
    (h : t.get? (here ++ names) = some e) : t.get? here = some .directory := by
  induction names using List.reverseRecOn generalizing e with
  | nil => exact absurd rfl hnames
  | append_singleton names n ih =>
    have hparent := hr.parent h
    rw [← List.append_assoc, List.dropLast_concat] at hparent
    by_cases hnil : names = []
    · simpa [hnil] using hparent
    · exact ih hnil hparent

/-- A location at which something other than a link is can be walked to from every directory above
it. -/
lemma walked_of_get? (hr : t.Rooted) (hnames : ∀ n ∈ names, Nameable n)
    (hget : t.get? (here ++ names) = some e) (hlink : ∀ target, e ≠ .link target) :
    t.Walked false links here names (here ++ names) := by
  induction names generalizing here with
  | nil =>
    rw [List.append_nil]
    exact .done links here
  | cons n rest ih =>
    obtain ⟨⟨hproper, hlength⟩, hrest⟩ := List.forall_mem_cons.1 hnames
    have hd : t.get? here = some .directory := hr.directory_of_append (by simp) hget
    rw [List.append_cons] at hget ⊢
    have hwalk := ih hrest hget
    cases rest with
    | nil =>
      rw [List.append_nil] at hget hwalk ⊢
      exact .enter hd hproper (by simp) (by omega) hget hlink hwalk
    | cons n' rest =>
      have hd' : t.get? (here ++ [n]) = some .directory := hr.directory_of_append (by simp) hget
      exact .enter hd hproper (by simp) (by omega) hd' (by simp) hwalk

/-- What is at the end of a path that leads to a file is there along the resolved path too, unless the
resolved path is too long. -/
lemma look_resolved (hr : t.Rooted) (hcwd : ∀ n ∈ cwd, Nameable n)
    (h : t.look cwd p = .ok (.file content)) :
    t.look cwd (pathOf (t.resolveLocation cwd p)) =
      if maxPath ≤ byteLength (pathOf (t.resolveLocation cwd p)).toString then .error .nameTooLong
      else .ok (.file content) := by
  obtain ⟨hlocate, hfile⟩ := look_eq_file_iff.1 h
  rw [fileAt?_eq_some_iff] at hfile
  have hstart : ∀ n ∈ start cwd p, Nameable n := by
    rw [start]
    split
    · simp
    · exact hcwd
  have hnames := (locate_eq_ok_iff.1 hlocate).2.nameable hstart
  have hwalked : t.Walked false maxLinks [] (t.resolveLocation cwd p) (t.resolveLocation cwd p) :=
    walked_of_get? hr hnames hfile (by simp)
  rw [look, locate]
  split
  · rfl
  · change (t.walk false maxLinks [] (t.resolveLocation cwd p)).bind _ = _
    rw [walk_of_walked hwalked]
    simp [Except.bind, hfile]

end FileTree

end Wikidown
