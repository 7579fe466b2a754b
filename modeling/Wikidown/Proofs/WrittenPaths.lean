import Mathlib.Data.List.Induction
import Mathlib.Tactic.Lemma
import Mathlib.Tactic.SplitIfs
import Wikidown.Proofs.Writing

/-!
# Paths as they are written

The names that the reading of a path gives are not empty, no single dots, and hold no slash. A path of
such names is read back as it was written (`Path.Clean.ofString_toString`). Paths that are read are of
this kind, and so are those that are made of them: longer ones, joined ones and resolved ones.
-/

namespace Wikidown

namespace Path

variable {p q base : Path} {n s : String} {names : List String} {cs : Text}

/-- A name such as the reading of a path gives it. -/
def IsName (n : String) : Prop :=
  n ≠ "" ∧ n ≠ "." ∧ '/' ∉ n.toList

instance : DecidablePred IsName := fun n =>
  inferInstanceAs (Decidable (n ≠ "" ∧ n ≠ "." ∧ '/' ∉ n.toList))

/-- All names of a path are such as the reading of a path gives them. -/
def Clean (p : Path) : Prop :=
  ∀ n ∈ p.names, IsName n

instance : DecidablePred Clean := fun p =>
  inferInstanceAs (Decidable (∀ n ∈ p.names, IsName n))

lemma isName_ofList_iff : IsName (String.ofList cs) ↔ cs ≠ [] ∧ cs ≠ ['.'] ∧ '/' ∉ cs := by
  have hnil : String.ofList cs = "" ↔ cs = [] := by rw [← String.toList_inj]; simp
  have hdot : String.ofList cs = "." ↔ cs = ['.'] := by rw [← String.toList_inj]; simp
  rw [IsName, Ne, Ne, hnil, hdot, String.toList_ofList]

lemma slash_not_mem_of_mem_splitOn {l : Text} (h : l ∈ cs.splitOn '/') : '/' ∉ l := by
  induction cs generalizing l with
  | nil => simp_all
  | cons c cs ih =>
    rw [List.splitOn_cons_eq_if_modifyHead] at h
    obtain ⟨k, ls, hcs⟩ := List.exists_cons_of_ne_nil (List.splitOn_ne_nil '/' cs)
    rw [hcs] at h ih
    split_ifs at h with hc
    · rcases List.mem_cons.1 h with rfl | h
      · simp
      · exact ih h
    · rcases List.mem_cons.1 h with rfl | h
      · have hslash : '/' ≠ c := fun heq => hc (by simp [← heq])
        exact fun hmem => (List.mem_cons.1 hmem).elim hslash (ih List.mem_cons_self)
      · exact ih (List.mem_cons_of_mem _ h)

lemma isName_of_mem_namesOf (h : n ∈ namesOf cs) : IsName n := by
  obtain ⟨l, hl, rfl⟩ := List.mem_map.1 h
  obtain ⟨hmem, hl⟩ := List.mem_filter.1 hl
  rw [isName_ofList_iff]
  refine ⟨by simp_all, by simp_all, slash_not_mem_of_mem_splitOn hmem⟩

lemma clean_ofString : (ofString s).Clean :=
  fun _ => isName_of_mem_namesOf

lemma Clean.append (hp : p.Clean) (hnames : ∀ n ∈ names, IsName n) : (p.append names).Clean :=
  List.forall_mem_append.2 ⟨hp, hnames⟩

lemma Clean.join (hbase : base.Clean) (hp : p.Clean) : (base.join p).Clean := by
  rw [Path.join]
  split
  · exact hp
  · exact hbase.append hp

lemma Clean.parent (hp : p.Clean) : p.parent.Clean :=
  fun n hn => hp n (List.dropLast_subset _ hn)

/-! ## Reading what was written -/

lemma namesOf_slash_cons : namesOf ('/' :: cs) = namesOf cs := by
  have hsplit := List.splitOn_append_cons_self_of_not_mem (List.not_mem_nil (a := '/')) cs
  rw [List.nil_append] at hsplit
  rw [namesOf, hsplit]
  rfl

lemma namesOf_intercalate (h : ∀ n ∈ names, IsName n) :
    namesOf ("/".intercalate names).toList = names := by
  by_cases hnil : names = []
  · subst hnil
    rfl
  have hsplit : ("/".intercalate names).toList.splitOn '/' = names.map String.toList := by
    rw [String.toList_intercalate]
    exact List.splitOn_intercalate '/' (List.forall_mem_map.2 fun n hn => (h n hn).2.2) (by simpa)
  have hkeep : ((names.map String.toList).filter fun n => n != [] && n != ['.']) =
      names.map String.toList := by
    refine List.filter_eq_self.2 (List.forall_mem_map.2 fun n hn => ?_)
    have hname := h n hn
    rw [← String.ofList_toList (s := n), isName_ofList_iff] at hname
    simp only [bne_iff_ne, Bool.and_eq_true]
    exact ⟨hname.1, hname.2.1⟩
  rw [namesOf, hsplit, hkeep, List.map_map]
  simp [Function.comp_def]

/-- The first character of written names is no slash. -/
lemma takeWhile_intercalate (h : ∀ n ∈ names, IsName n) :
    ("/".intercalate names).toList.takeWhile (· == '/') = [] := by
  cases names with
  | nil => rfl
  | cons n rest =>
    obtain ⟨hempty, -, hslash⟩ := h n List.mem_cons_self
    obtain ⟨c, cs, hcs⟩ := List.exists_cons_of_ne_nil (mt String.toList_eq_nil_iff.1 hempty)
    have hc : c ≠ '/' := by
      rintro rfl
      simp [hcs] at hslash
    rw [String.toList_intercalate]
    cases rest <;> simp [hcs, hc]

/-- A path is read back as it was written. -/
lemma Clean.ofString_toString (h : p.Clean) : ofString p.toString = p := by
  obtain ⟨anchor, names⟩ := p
  by_cases hhere : anchor = .here ∧ names = []
  · obtain ⟨rfl, rfl⟩ := hhere
    decide
  have hstart := takeWhile_intercalate h
  have hnames := namesOf_intercalate h
  rw [Path.toString, if_neg hhere, ofString]
  simp only at hstart hnames ⊢
  generalize "/".intercalate names = s at hstart hnames ⊢
  cases anchor with
  | here => simp [anchorText, anchorOf, hstart, hnames]
  | root => simp [anchorText, anchorOf, hstart, hnames, namesOf_slash_cons]
  | doubleRoot => simp [anchorText, anchorOf, hstart, hnames, namesOf_slash_cons]

/-! ## Suffixes -/

lemma stemOf_sublist (cs : List Char) : (stemOf cs).Sublist cs := by
  rw [stemOf]
  split_ifs
  · exact List.take_sublist _ _
  · exact List.Sublist.refl _

/-- A name is no longer one if something with a dot and more is put behind its stem. -/
lemma Clean.isName_stem_append (hp : p.Clean) : IsName (p.stem ++ ".md") := by
  have hslash : '/' ∉ p.name.toList := by
    rw [Path.name]
    cases h : p.names.getLast? with
    | none => simp
    | some n => exact (hp n (List.mem_of_getLast? h)).2.2
  have hstem : '/' ∉ stemOf p.name.toList := fun hmem => hslash ((stemOf_sublist _).mem hmem)
  have hwritten : p.stem ++ ".md" = String.ofList (stemOf p.name.toList ++ ['.', 'm', 'd']) := by
    rw [Path.stem, String.ofList_append]
  rw [hwritten, isName_ofList_iff]
  refine ⟨by simp, ?_, by simp [hstem]⟩
  exact fun h => by simpa using congrArg List.length h

end Path

/-! ## Resolved paths -/

namespace FileTree

open Wikidown.Path

variable {t : FileTree} {here cwd : Location} {names : List String} {visiting : List Location}
variable {depth : Nat} {p : Path}

/-- A name that can come up as links are followed. -/
def Met (n : String) : Prop :=
  n = "." ∨ n = directoryMark ∨ IsName n

lemma met_of_mem_targetNames {target : String} : ∀ n ∈ targetNames target, Met n := by
  refine List.forall_mem_append.2 ⟨fun n hn => .inr (.inr (isName_of_mem_namesOf hn)), ?_⟩
  rw [targetEnd]
  split <;> simp [Met]

lemma Met.isName {n : String} (h : Met n) (hn : ¬ (n = "." ∨ n = directoryMark)) : IsName n := by
  rcases h with hdot | hmark | hname
  · exact absurd (.inl hdot) hn
  · exact absurd (.inr hmark) hn
  · exact hname

lemma isName_of_mem_targetStart {target : String} (hhere : ∀ n ∈ here, IsName n) :
    ∀ n ∈ targetStart here target, IsName n := by
  rw [targetStart]
  split
  · simp
  · exact hhere

lemma follow_met (hhere : ∀ n ∈ here, IsName n) (hnames : ∀ n ∈ names, Met n) :
    (∀ n ∈ (t.follow depth visiting here names).location, IsName n) ∧
      ∀ n ∈ (t.follow depth visiting here names).left, Met n := by
  fun_induction t.follow depth visiting here names with
  | case1 => exact ⟨hhere, hnames⟩
  | case2 depth visiting here n rest hn ih => exact ih hhere (List.forall_mem_cons.1 hnames).2
  | case3 depth visiting here rest hn ih =>
    exact ih (fun n hn => hhere n (List.dropLast_subset _ hn)) (List.forall_mem_cons.1 hnames).2
  | case4 | case5 => exact ⟨hhere, hnames⟩
  | case6 visiting here n rest hn hup target hlink hv depth inner hinner ih ih' =>
    obtain ⟨hlocation, -⟩ := ih (isName_of_mem_targetStart hhere) met_of_mem_targetNames
    exact ih' hlocation (List.forall_mem_cons.1 hnames).2
  | case7 visiting here n rest hn hup target hlink hv depth inner hinner ih =>
    obtain ⟨hlocation, hleft⟩ := ih (isName_of_mem_targetStart hhere) met_of_mem_targetNames
    exact ⟨hlocation, List.forall_mem_append.2 ⟨hleft, (List.forall_mem_cons.1 hnames).2⟩⟩
  | case8 depth visiting here n rest hn hup hlink ih =>
    obtain ⟨hmet, hrest⟩ := List.forall_mem_cons.1 hnames
    exact ih (List.forall_mem_append.2 ⟨hhere, List.forall_mem_singleton.2 (hmet.isName hn)⟩) hrest

lemma flatten_isName (hhere : ∀ n ∈ here, IsName n) (hnames : ∀ n ∈ names, Met n) :
    ∀ n ∈ flatten here names, IsName n := by
  rw [flatten]
  induction names generalizing here with
  | nil => exact hhere
  | cons n rest ih =>
    obtain ⟨hmet, hrest⟩ := List.forall_mem_cons.1 hnames
    refine ih ?_ hrest
    dsimp only
    split_ifs with hn hup
    · exact hhere
    · exact fun n hn => hhere n (List.dropLast_subset _ hn)
    · exact List.forall_mem_append.2 ⟨hhere, List.forall_mem_singleton.2 (hmet.isName hn)⟩

/-- A path is resolved to one that is read back as it is written. -/
lemma clean_pathOf_resolveLocation (hcwd : ∀ n ∈ cwd, IsName n) (hp : p.Clean) :
    (pathOf (t.resolveLocation cwd p)).Clean := by
  have hstart : ∀ n ∈ start cwd p, IsName n := by
    rw [start]
    split
    · simp
    · exact hcwd
  have hmet : ∀ n ∈ p.names, Met n := fun n hn => .inr (.inr (hp n hn))
  exact flatten_isName (follow_met hstart hmet).1 (follow_met hstart hmet).2

end FileTree

end Wikidown
