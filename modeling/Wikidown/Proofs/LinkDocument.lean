import Wikidown.Proofs.Segments

/-!
# Documents of links

A document of texts, piped links and bare labels, one after the other. The first pass over links writes
the piped links and leaves the labels in their brackets (`rewrite_pipedLink`). The second one sees the
labels of both kinds and tells them apart by the parenthesis that the first one wrote, so that it
takes for a link nothing but the bare labels (`rewrite_bareLink`).
-/

namespace Wikidown.Links

open Markup Pattern

/-- A label is not empty and holds no bracket, no bar and no line feed. -/
def IsLabel (l : Text) : Prop :=
  l ≠ [] ∧ ∀ x ∈ l, x ∉ "[]|\n".toList

/-- A target is not empty and holds no bracket and no line feed. -/
def IsTarget (u : Text) : Prop :=
  u ≠ [] ∧ ∀ x ∈ u, x ∉ "[]\n".toList

instance : DecidablePred IsLabel := fun l =>
  have := List.decidableBAll (· ∉ "[]|\n".toList) l
  inferInstanceAs (Decidable (l ≠ [] ∧ ∀ x ∈ l, x ∉ "[]|\n".toList))

instance : DecidablePred IsTarget := fun u =>
  have := List.decidableBAll (· ∉ "[]\n".toList) u
  inferInstanceAs (Decidable (u ≠ [] ∧ ∀ x ∈ u, x ∉ "[]\n".toList))

/-- A segment of a document. -/
inductive Segment
  | text (s : Text)
  | piped (label target : Text)
  | bare (label : Text)
deriving DecidableEq, Repr

namespace Segment

/-- The segment in the source. -/
def source : Segment → Text
  | text s => s
  | piped l u => "[".toList ++ l ++ "|".toList ++ u ++ "]".toList
  | bare l => "[".toList ++ l ++ "]".toList

/-- The segment between the two passes. -/
def passed : Segment → Text
  | text s => s
  | piped l u => "[".toList ++ l ++ "](".toList ++ u ++ ")".toList
  | bare l => "[".toList ++ l ++ "]".toList

/-- The segment in the written document, in front of the character `next`. -/
def written (next : Option Char) : Segment → Text
  | text s => s
  | piped l u => "[".toList ++ l ++ "](".toList ++ u ++ ")".toList
  | bare l => if next = some '(' then "[".toList ++ l ++ "]".toList
    else "<".toList ++ l ++ ">".toList

/-- A text holds no opening bracket, and links have labels and targets. -/
def WellFormed : Segment → Prop
  | text s => '[' ∉ s
  | piped l u => IsLabel l ∧ IsTarget u
  | bare l => IsLabel l

instance : DecidablePred WellFormed
  | text s => inferInstanceAs (Decidable ('[' ∉ s))
  | piped l u => inferInstanceAs (Decidable (IsLabel l ∧ IsTarget u))
  | bare l => inferInstanceAs (Decidable (IsLabel l))

end Segment

/-- The source of a document. -/
def source (gs : List Segment) : Text :=
  gs.flatMap Segment.source

/-- The document between the two passes. -/
def passed (gs : List Segment) : Text :=
  gs.flatMap Segment.passed

/-- The written document. -/
def written : List Segment → Text
  | [] => []
  | g :: gs => g.written (source gs).head? ++ written gs

section Passes

variable {gs : List Segment} {b : Option Char} {l u r : Text} {f : Text × Text → Text}

lemma IsLabel.isLabelChar (h : IsLabel l) :
    ∀ x ∈ l, isLabelChar x = true ∧ (isLabelChar x && x != '|') = true := by
  intro x hx
  have hout := h.2 x hx
  simp_all [Markup.isLabelChar]

lemma IsLabel.not_mem (h : IsLabel l) : '[' ∉ l :=
  fun hx => h.2 _ hx (by decide)

lemma IsTarget.isTargetChar (h : IsTarget u) : ∀ x ∈ u, isTargetChar x = true := by
  intro x hx
  have hout := h.2 x hx
  simp_all [Markup.isTargetChar]

lemma IsTarget.not_mem (h : IsTarget u) : '[' ∉ u :=
  fun hx => h.2 _ hx (by decide)

/-- A text without an opening bracket is passed over in both passes. -/
lemma rewrites_text {α : Type} {pat : Pattern α} {f : α → Text} (ho : pat.OpensWith ['['])
    {s : Text} (hs : '[' ∉ s) : pat.Rewrites f b s s r :=
  ho.rewrites_self fun x hx => by simpa using ne_of_mem_of_not_mem hx hs

/-- The first pass writes the piped links. -/
lemma rewrite_pipedLink (h : ∀ g ∈ gs, g.WellFormed) (b : Option Char) :
    pipedLink.rewrite (fun (l, u) => "[".toList ++ l ++ "](".toList ++ u ++ ")".toList) b
      (source gs) = passed gs := by
  induction gs generalizing b with
  | nil => exact rewrite_nil b
  | cons g gs ih =>
    obtain ⟨hg, hgs⟩ := List.forall_mem_cons.1 h
    refine Rewrites.rewrite_eq (r := source gs) ?_ (ih hgs _)
    cases g with
    | text s => exact rewrites_text opensWith_pipedLink hg
    | piped l u =>
      exact rewrites_span (read_pipedLink (fun x hx => (hg.1.isLabelChar x hx).2) hg.1.1
        hg.2.isTargetChar hg.2.1) rfl
    | bare l =>
      refine opensWith_pipedLink.rewrites_cons (l := l ++ "]".toList) (by simp [hg.not_mem]) ?_
      simpa using read_pipedLink_label (fun x hx => (hg.isLabelChar x hx).2) hg.1

/-- The first pass leaves every segment its first character. -/
lemma head?_passed (gs : List Segment) : (passed gs).head? = (source gs).head? := by
  induction gs with
  | nil => rfl
  | cons g gs ih =>
    cases g with
    | text s =>
      cases s with
      | nil => simpa [passed, source, Segment.passed, Segment.source] using ih
      | cons c s => rfl
    | piped l u | bare l => rfl

/-- The second pass writes the bare labels. -/
lemma rewrite_bareLink (h : ∀ g ∈ gs, g.WellFormed) (b : Option Char) :
    bareLink.rewrite (fun l => "<".toList ++ l ++ ">".toList) b (passed gs) = written gs := by
  induction gs generalizing b with
  | nil => exact rewrite_nil b
  | cons g gs ih =>
    obtain ⟨hg, hgs⟩ := List.forall_mem_cons.1 h
    refine Rewrites.rewrite_eq (r := passed gs) ?_ (ih hgs _)
    cases g with
    | text s => exact rewrites_text opensWith_bareLink hg
    | piped l u =>
      -- the parenthesis that the first pass wrote protects the label
      have hread := read_bareLink (b := b) (r := "(".toList ++ u ++ ")".toList ++ passed gs)
        (fun x hx => (hg.1.isLabelChar x hx).1) hg.1.1
      have hparen : ("(".toList ++ u ++ ")".toList ++ passed gs).head? = some '(' := rfl
      rw [if_pos hparen] at hread
      refine opensWith_bareLink.rewrites_cons (l := l ++ "](".toList ++ u ++ ")".toList) ?_
        (by simpa using hread)
      simp [hg.1.not_mem, hg.2.not_mem]
    | bare l =>
      have hread := read_bareLink (b := b) (r := passed gs)
        (fun x hx => (hg.isLabelChar x hx).1) hg.1
      rw [head?_passed] at hread
      rw [Segment.written]
      split
      · next hparen =>
        rw [if_pos hparen] at hread
        exact opensWith_bareLink.rewrites_cons (l := l ++ "]".toList) (by simp [hg.not_mem]) hread
      · next hparen =>
        rw [if_neg hparen] at hread
        exact rewrites_span hread rfl

end Passes

/-- Piped links are written with their target in parentheses and bare labels in angle brackets, those
in front of a parenthesis apart; all else stays as it is, whatever stands side by side. -/
theorem writeLinks_document (gs : List Segment) (h : ∀ g ∈ gs, g.WellFormed) :
    writeLinks (source gs) = written gs := by
  have hpiped : convertPipedLinks (source gs) = passed gs := rewrite_pipedLink h none
  rw [writeLinks, hpiped]
  exact rewrite_bareLink h none

/-- Links side by side, a bar in a target, and labels in front of parentheses and at the end. -/
theorem writeLinks_document_adjacent :
    writeLinks "a[b][c|d|e](f)[g](h)|[i]".toList = "a<b>[c](d|e)(f)[g](h)|<i>".toList :=
  writeLinks_document [.text "a".toList, .bare "b".toList, .piped "c".toList "d|e".toList,
    .text "(f)".toList, .bare "g".toList, .text "(h)|".toList, .bare "i".toList] (by decide)

end Wikidown.Links
