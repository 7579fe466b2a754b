import Wikidown.Proofs.Destinations

/-!
# What files hold

Paths are resolved and walked along by the names, directories and links of a tree alone. A tree in
which every file holds something else (`FileTree.refill`) resolves every path to the same one
(`resolve_refill`).
-/

namespace Wikidown

/-- An entry, with another content if it is a file. -/
def Entry.refill (content : Bytes) : Entry → Entry
  | .file _ => .file content
  | .directory => .directory
  | .link target => .link target
  | .barred isDirectory => .barred isDirectory

namespace FileTree

/-- The tree in which every file holds what is given for its location. -/
def refill (contents : Location → Bytes) (t : FileTree) : FileTree :=
  ⟨t.entries.map fun e => (e.1, e.2.refill (contents e.1))⟩

variable {t : FileTree} {contents : Location → Bytes} {l cwd : Location} {p : Path}

lemma get?_refill : (t.refill contents).get? l = (t.get? l).map (Entry.refill (contents l)) := by
  obtain ⟨es⟩ := t
  by_cases hl : l = []
  · simp [hl, Entry.refill]
  · simp only [get?, hl, if_false, refill]
    induction es with
    | nil => rfl
    | cons e es ih =>
      obtain ⟨k, e⟩ := e
      by_cases hk : l = k
      · simp [hk]
      · have hbeq : (l == k) = false := by simpa using hk
        simpa [List.lookup_cons, hbeq] using ih

lemma linkAt?_refill : (t.refill contents).linkAt? = t.linkAt? := by
  funext l
  rw [linkAt?, linkAt?, get?_refill]
  rcases t.get? l with - | (- | - | - | -) <;> rfl

lemma countLinks_refill : (t.refill contents).countLinks = t.countLinks := by
  rw [countLinks, refill, List.countP_map, countLinks]
  congr 1
  funext x
  obtain ⟨l, e⟩ := x
  cases e <;> rfl

lemma walk_refill (making : Bool) (links : Nat) (here : Location) (names : List String) :
    (t.refill contents).walk making links here names = t.walk making links here names := by
  fun_induction t.walk making links here names with
  | case1 => rw [walk]
  | case9 links here rest hd hn ih =>
    rw [walk, get?_refill, hd]
    exact (if_neg hn).trans ih
  | case16 links here n rest hd hn hup hmaking hlength e hlink hget ih =>
    cases e with
    | link target => exact absurd rfl (hlink target)
    | file | directory | barred => simp [walk, get?_refill, Entry.refill, *]
  | _ => simp [walk, get?_refill, Entry.refill, *]

/-- A path is resolved to the same one whatever the files hold. -/
lemma resolve_refill : (t.refill contents).resolve cwd p = t.resolve cwd p := by
  have hlocation : (t.refill contents).resolveLocation cwd p = t.resolveLocation cwd p := by
    simp only [resolveLocation, countLinks_refill, follow_congr linkAt?_refill]
  have hlocate (p : Path) : (t.refill contents).locate cwd false p = t.locate cwd false p := by
    simp only [locate, walk_refill]
  simp only [resolve, hlocation, look, hlocate]
  cases t.locate cwd false (pathOf (t.resolveLocation cwd p)) with
  | error o => rfl
  | ok l =>
    simp only [Except.bind, get?_refill]
    cases t.get? l <;> rfl

end FileTree

end Wikidown
