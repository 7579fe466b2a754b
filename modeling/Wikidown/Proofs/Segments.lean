import Wikidown.Proofs.Spans
import Wikidown.Proofs.Words

/-!
# Reading a text segment by segment

`Pattern.Rewrites` says what becomes of a segment of a text between the character before it and the
text behind it. A segment is rewritten as a whole when it is one span (`rewrites_span`) or when no
span begins in it (`rewrites_self`), and two segments in a row are rewritten one after the other
(`Rewrites.append`). The last parts say when text between two markers is read as a span, and when
text in brackets is read as a link.
-/

namespace Wikidown

namespace Pattern

variable {α : Type} {pat : Pattern α} {f : α → Text} {b : Option Char} {s t r : Text} {x : Char}

/-- What stands before the place behind a character and a segment. -/
lemma getLast?_cons_or : (x :: s).getLast?.or b = s.getLast?.or (some x) := by
  rw [List.getLast?_cons]
  cases s.getLast? <;> rfl

/-- Behind the character `b` and in front of the text `r`, the segment `s` is rewritten to `t`, and
reading goes on behind it. -/
def Rewrites (pat : Pattern α) (f : α → Text) (b : Option Char) (s t r : Text) : Prop :=
  pat.rewrite f b (s ++ r) = t ++ pat.rewrite f (s.getLast?.or b) r

/-- A segment is written in front of what is written for the text behind it. -/
lemma Rewrites.rewrite_eq {u : Text} (h : pat.Rewrites f b s t r)
    (hr : pat.rewrite f (s.getLast?.or b) r = u) : pat.rewrite f b (s ++ r) = t ++ u := by
  rw [Rewrites] at h
  rw [h, hr]

/-- A whole text is a segment with nothing behind it. -/
lemma Rewrites.rewrite_eq_of_nil (h : pat.Rewrites f b s t []) : pat.rewrite f b s = t := by
  simpa using h.rewrite_eq (rewrite_nil _)

/-- Two segments in a row. -/
lemma Rewrites.append {s' t' : Text} (h : pat.Rewrites f b s t (s' ++ r))
    (h' : pat.Rewrites f (s.getLast?.or b) s' t' r) :
    pat.Rewrites f b (s ++ s') (t ++ t') r := by
  rw [Rewrites] at h h' ⊢
  rw [List.append_assoc, h, h', List.getLast?_append, Option.or_assoc, List.append_assoc]

/-- A segment that is read as a span. -/
lemma rewrites_span {a : α} (h : pat.read b (s ++ r) = some ⟨s, a, r⟩) (ht : f a = t) :
    pat.Rewrites f b s t r := by
  subst ht
  have hs : s ≠ [] := (pat.splits h).1
  rw [Rewrites, rewrite_span h, List.getLast?_eq_some_getLast hs, Option.some_or]

/-- A segment in which no span begins. -/
lemma rewrites_self
    (h : ∀ u v, s = u ++ v → v ≠ [] → pat.read (u.getLast?.or b) (v ++ r) = none) :
    pat.Rewrites f b s s r := by
  rw [Rewrites]
  induction s generalizing b with
  | nil => rfl
  | cons c s ih =>
    have hs : ∀ u v, s = u ++ v → v ≠ [] → pat.read (u.getLast?.or (some c)) (v ++ r) = none := by
      intro u v hu hv
      rw [← getLast?_cons_or]
      exact h (c :: u) v (by rw [hu, List.cons_append]) hv
    have hc : pat.read b (c :: (s ++ r)) = none := h [] (c :: s) rfl (List.cons_ne_nil c s)
    rw [List.cons_append, rewrite_plain hc, ih hs, getLast?_cons_or, List.cons_append]

/-- A single character at which no span begins. -/
lemma rewrites_singleton (h : pat.read b (x :: r) = none) : pat.Rewrites f b [x] [x] r :=
  rewrite_plain h

/-- A segment that holds no character with which a span begins. -/
lemma OpensWith.rewrites_self {cs : Text} (ho : pat.OpensWith cs) (hs : ∀ x ∈ s, x ∉ cs) :
    pat.Rewrites f b s s r := by
  apply Pattern.rewrites_self
  intro u v hu hv
  obtain ⟨x, v, rfl⟩ := List.exists_cons_of_ne_nil hv
  exact ho.read_eq_none (hs x (by simp [hu])) _ _

/-- A segment in which none of the words begins with which spans begin. -/
lemma rewrites_of_avoids {W : Text → Prop}
    (hread : ∀ b t m, pat.read b t = some m → ∃ w, W w ∧ w <+: t) (h : Text.Avoids W s r) :
    pat.Rewrites f b s s r := by
  apply Pattern.rewrites_self
  intro u v hu hv
  cases hr : pat.read (u.getLast?.or b) (v ++ r) with
  | none => rfl
  | some m =>
    obtain ⟨w, hw, hpre⟩ := hread _ _ _ hr
    exact absurd hpre (h v ⟨u, hu.symm⟩ hv w hw)

/-! ## Reading up to the closing -/

variable {c : Char} {m closing a u : Text} {inside : Char → Bool}

/-- Whether a span between two markers is read depends on what stands behind the run inside. -/
lemma read_around_append (hne : a ≠ []) (ha : ∀ x ∈ a, inside x = true)
    (hu : u.takeWhile inside = []) :
    (around c m inside closing).read b (c :: m ++ a ++ u) =
      (Text.after? closing u).map fun r => ⟨c :: m ++ a ++ closing, a, r⟩ := by
  have hopen : Text.after? (c :: m) (c :: m ++ a ++ u) = some (a ++ u) := by
    rw [List.append_assoc, Text.after?_append]
  simp only [around, Pattern.filter, between, hopen, Option.bind_some,
    Text.takeWhile_append_of_stop ha hu, Text.dropWhile_append_of_stop ha hu]
  cases Text.after? closing u with
  | none => rfl
  | some r => simp [Option.filter, hne]

/-- A run between two markers that the closing ends is read as a span. -/
lemma read_around_of_closes (hne : a ≠ []) (ha : ∀ x ∈ a, inside x = true)
    (hc : (closing ++ r).takeWhile inside = []) :
    (around c m inside closing).read b (c :: m ++ a ++ closing ++ r) =
      some ⟨c :: m ++ a ++ closing, a, r⟩ := by
  rw [List.append_assoc, read_around_append hne ha hc, Text.after?_append]
  rfl

/-- The character of an opening at which no span begins, with text behind it that lacks the
character. -/
lemma OpensWith.rewrites_cons {l : Text} (ho : pat.OpensWith [x]) (hl : x ∉ l)
    (h : pat.read b (x :: (l ++ r)) = none) : pat.Rewrites f b (x :: l) (x :: l) r := by
  have key : pat.Rewrites f (some x) l l r := ho.rewrites_self fun y hy => by
    simpa using ne_of_mem_of_not_mem hy hl
  exact .append (rewrites_singleton h) key

/-- No link begins in an image, whose brackets are empty. -/
lemma OpensWith.rewrites_image (ho : pat.OpensWith ['['])
    (hempty : ∀ b r, pat.read b ('[' :: ']' :: r) = none) (hs : '[' ∉ s) :
    pat.Rewrites f b ("![](".toList ++ s ++ ")".toList) ("![](".toList ++ s ++ ")".toList) r := by
  have hbang : pat.Rewrites f b ['!'] ['!'] ("[](".toList ++ s ++ ")".toList ++ r) :=
    rewrites_singleton (ho.read_eq_none (by decide) _ _)
  have hrest : pat.Rewrites f (some '!') ("[](".toList ++ s ++ ")".toList)
      ("[](".toList ++ s ++ ")".toList) r :=
    ho.rewrites_cons (l := "](".toList ++ s ++ ")".toList) (by simp [hs]) (hempty _ _)
  exact hbang.append hrest

end Pattern

namespace Markup

open Pattern

variable {b : Option Char} {l u r : Text}

/-- A label and a target in brackets are read as a piped link. -/
lemma read_pipedLink (hl : ∀ x ∈ l, (isLabelChar x && x != '|') = true) (hlne : l ≠ [])
    (hu : ∀ x ∈ u, isTargetChar x = true) (hune : u ≠ []) :
    pipedLink.read b ("[".toList ++ l ++ "|".toList ++ u ++ "]".toList ++ r) =
      some ⟨"[".toList ++ l ++ "|".toList ++ u ++ "]".toList, (l, u), r⟩ := by
  have hstop : ("]".toList ++ r).takeWhile isTargetChar = [] := rfl
  have hread : (around '[' [] (fun x => isLabelChar x && x != '|') "|".toList).read none
      ("[".toList ++ l ++ "|".toList ++ u ++ "]".toList ++ r) =
        some ⟨"[".toList ++ l ++ "|".toList, l, u ++ ("]".toList ++ r)⟩ := by
    rw [List.append_assoc _ "]".toList r, List.append_assoc _ u]
    exact read_around_of_closes hlne hl rfl
  simp only [pipedLink, hread, Option.bind_some, Text.takeWhile_append_of_stop hu hstop,
    Text.dropWhile_append_of_stop hu hstop, Text.after?_append, if_neg hune, Option.map_some]

/-- A label alone is no piped link. -/
lemma read_pipedLink_label (hl : ∀ x ∈ l, (isLabelChar x && x != '|') = true) (hlne : l ≠ []) :
    pipedLink.read b ('[' :: (l ++ ']' :: r)) = none := by
  have hread : (around '[' [] (fun x => isLabelChar x && x != '|') "|".toList).read none
      ('[' :: (l ++ ']' :: r)) = none := read_around_append (u := ']' :: r) hlne hl rfl
  simp only [pipedLink, hread, Option.bind_none]

/-- A label in brackets is read as a bare link if no parenthesis follows. -/
lemma read_bareLink (hl : ∀ x ∈ l, isLabelChar x = true) (hlne : l ≠ []) :
    bareLink.read b ("[".toList ++ l ++ "]".toList ++ r) =
      if r.head? = some '(' then none else some ⟨"[".toList ++ l ++ "]".toList, l, r⟩ := by
  have hread : (around '[' [] isLabelChar "]".toList).read b ("[".toList ++ l ++ "]".toList ++ r) =
      some ⟨"[".toList ++ l ++ "]".toList, l, r⟩ := read_around_of_closes hlne hl rfl
  simp only [bareLink, Pattern.filter, hread, Option.filter]
  split <;> simp_all

end Markup

end Wikidown
