import Mathlib.Algebra.Ring.Parity
import Wikidown.Proofs.Leftmost
import Wikidown.Proofs.Segments

/-!
# Restoring a text

What some rules write for the delimiters of their spans can be taken back: whoever replaces the tags of
an element, the double tildes or the backticks of the new text finds the text again, if it had none of
them (`marks_restored`). Between two spans nothing of the kind begins, as it would have to go on with its
own first character (`Pattern.rewrites_free`).
-/

namespace Wikidown

open Pattern

variable {s t u v w a c g : Text}

/-- What holds of gaps and is passed on behind spans holds of a text and of what is written for it, if
the text has a property that its parts inherit. -/
lemma Cut.lift {V : SpanRelation} {P : Text → Prop} {R : Text → Text → Prop}
    (hP : ∀ x y, P (x ++ y) → P x ∧ P y) (hgap : ∀ g, P g → R g g)
    (hspan : ∀ u g a v w s t, P g → P a → V u a v w → R s t → R (g ++ a ++ s) (g ++ w ++ t))
    (h : Cut V u s t) (hs : P s) : R s t := by
  induction h with
  | gap _ => exact hgap _ hs
  | @span u g a v w t _ ha _ ih =>
    obtain ⟨hfront, hv⟩ := hP _ _ hs
    obtain ⟨hg, ha'⟩ := hP _ _ hfront
    exact hspan _ g a v w v t hg ha' ha (ih hv)

/-- None of the words stands in a text. -/
def Free (ws : List Text) (s : Text) : Prop :=
  ∀ w ∈ ws, ¬ w <:+: s

instance (ws : List Text) (s : Text) : Decidable (Free ws s) :=
  inferInstanceAs (Decidable (∀ w ∈ ws, ¬ w <:+: s))

lemma Free.append {ws : List Text} (x y : Text) (h : Free ws (x ++ y)) : Free ws x ∧ Free ws y :=
  ⟨fun w hw hin => h w hw (hin.trans (List.prefix_append x y).isInfix),
    fun w hw hin => h w hw (hin.trans (List.suffix_append x y).isInfix)⟩

/-- A pattern whose spans are words reads none in a text without these words, unless one lies across
the end of the text. -/
lemma Pattern.rewrites_free {α : Type} {pat : Pattern α} {f : α → Text} {b : Option Char}
    {ws : List Text} {r : Text} (hpat : ∀ b s m, pat.read b s = some m → ∃ w ∈ ws, w <+: s)
    (hs : Free ws s) (hpart : Text.Parted ws s r) : pat.Rewrites f b s s r := by
  apply rewrites_self
  rintro p q rfl hq
  cases hr : pat.read (p.getLast?.or b) (q ++ r) with
  | none => rfl
  | some m =>
    obtain ⟨w, hw, hpre⟩ := hpat _ _ m hr
    have hin := (Text.prefix_append_iff (hpart q (List.suffix_append p q) hq w hw)).1 hpre
    exact absurd (hin.isInfix.trans (List.suffix_append p q).isInfix) (hs w hw)

/-! ## Elements -/

/-- The opening tag of an element. -/
def openTag (name : String) : Text :=
  "<".toList ++ name.toList ++ ">".toList

/-- The closing tag of an element. -/
def closeTag (name : String) : Text :=
  "</".toList ++ name.toList ++ ">".toList

/-- Both tags of an element. -/
def elementTags (name : String) : List Text :=
  [openTag name, closeTag name]

lemma element_eq (name : String) (c : Text) :
    Markup.element name c = openTag name ++ c ++ closeTag name := by
  simp [Markup.element, openTag, closeTag]

/-- A tag of an element. -/
def tagPattern (name : String) : Pattern Unit :=
  (marker '<' (name.toList ++ ">".toList)).orElse (marker '<' ('/' :: (name.toList ++ ">".toList)))

/-- Replaces the tags of an element. -/
def replaceTags (name : String) (mark : Text) : Text → Text :=
  (tagPattern name).replace fun _ => mark

/-- The rules that write text between two marks as an element. -/
def markedRules : List (Rule × Text × String) :=
  [(.citation, "??".toList, "cite"), (.insert, "+".toList, "ins"), (.superscript, "^".toList, "sup"),
    (.subscript, "~".toList, "sub")]

lemma exists_prefix_of_read {name : String} {b : Option Char} {m : Span Unit}
    (h : (tagPattern name).read b s = some m) : ∃ w ∈ elementTags name, w <+: s := by
  rcases read_orElse_iff.1 h with h | ⟨-, h⟩
  · exact ⟨_, List.mem_cons_self, m.rest, (read_marker_iff.1 h).1.symm⟩
  · exact ⟨_, List.mem_cons_of_mem _ List.mem_cons_self, m.rest, (read_marker_iff.1 h).1.symm⟩

section Marked

variable {r : Rule} {mark : Text} {name : String} {b : Option Char}

/-- A tag is replaced, whatever stands behind it. -/
lemma rewrites_tag (hr : (r, mark, name) ∈ markedRules) (hw : w ∈ elementTags name) (t : Text) :
    (tagPattern name).Rewrites (fun _ => mark) b w mark t := by
  have hread : (tagPattern name).read b (w ++ t) = some ⟨w, (), t⟩ := by
    simp only [markedRules, List.mem_cons, Prod.mk.injEq, List.not_mem_nil, or_false] at hr
    rcases hr with ⟨-, -, rfl⟩ | ⟨-, -, rfl⟩ | ⟨-, -, rfl⟩ | ⟨-, -, rfl⟩ <;>
      rcases List.mem_pair.1 hw with rfl | rfl <;> rfl
  exact rewrites_span hread rfl

/-- No tag lies across the place where a tag begins. -/
lemma parted_tag (hr : (r, mark, name) ∈ markedRules) (hw : w ∈ elementTags name) (ht : w <+: t)
    (s : Text) : Text.Parted (elementTags name) s t := by
  have hstops : ∀ m ∈ markedRules, ∀ w ∈ elementTags m.2.2,
      Text.stops (elementTags m.2.2) w = true := by decide
  obtain ⟨t, rfl⟩ := ht
  exact Text.parted_of_stops (hstops _ hr w hw)

/-- The spans of these rules are written between the tags of an element. -/
lemma exists_content (hr : (r, mark, name) ∈ markedRules) (h : r.Valid u a v w) :
    ∃ c, a = mark ++ c ++ mark ∧ w = Markup.element name c := by
  simp only [markedRules, List.mem_cons, Prod.mk.injEq, List.not_mem_nil, or_false] at hr
  rcases hr with ⟨rfl, rfl, rfl⟩ | ⟨rfl, rfl, rfl⟩ | ⟨rfl, rfl, rfl⟩ | ⟨rfl, rfl, rfl⟩
  · cases h with
    | @citation _ c => exact ⟨c, rfl, rfl⟩
    | element hr => simp [Rule.elementRules] at hr
  all_goals
    cases h with
    | @element _ d name' _ c _ hr =>
      simp only [Rule.elementRules, List.mem_cons, List.not_mem_nil, Prod.mk.injEq, reduceCtorEq,
        false_and, true_and, false_or, or_false] at hr
      obtain ⟨rfl, rfl⟩ := hr
      exact ⟨c, rfl, rfl⟩

/-- The tags of an element are replaced where it stands behind a text without them. -/
lemma rewrites_element (hr : (r, mark, name) ∈ markedRules) (hg : Free (elementTags name) g)
    (hc : Free (elementTags name) c) (t : Text) :
    (tagPattern name).Rewrites (fun _ => mark) b (g ++ Markup.element name c)
      (g ++ (mark ++ c ++ mark)) t := by
  have hopen : openTag name ∈ elementTags name := List.mem_cons_self
  have hclose : closeTag name ∈ elementTags name := List.mem_cons_of_mem _ List.mem_cons_self
  rw [element_eq]
  refine .append (rewrites_free (fun _ _ _ => exists_prefix_of_read) hg ?_)
    (.append (.append (rewrites_tag hr hopen _)
      (rewrites_free (fun _ _ _ => exists_prefix_of_read) hc ?_)) (rewrites_tag hr hclose t))
  · exact parted_tag hr hopen ⟨c ++ closeTag name ++ t, by simp⟩ g
  · exact parted_tag hr hclose (List.prefix_append _ _) c

/-- The tags that such a rule writes are the only ones if the text had none, and there is a mark for
each. -/
lemma replaceTags_apply (hr : (r, mark, name) ∈ markedRules) (o : Options)
    (hs : Free (elementTags name) s) : replaceTags name mark (r.apply o s) = s := by
  have hrules : ∀ m ∈ markedRules, m.1 ∈ Rule.spanRules ∧ m.1 ≠ .delete := by decide
  obtain ⟨hspan, hdelete⟩ := hrules _ hr
  have hcut := Rule.cut_apply (o := o) hspan (fun h => absurd h hdelete) s
  refine hcut.lift (R := fun s t => ∀ b, (tagPattern name).rewrite (fun _ => mark) b t = s)
    Free.append ?_ ?_ hs none
  · intro g hg b
    have hgap : (tagPattern name).Rewrites (fun _ => mark) b g g [] :=
      rewrites_free (fun _ _ _ => exists_prefix_of_read) hg
        fun _ _ _ _ _ _ _ hq => List.prefix_nil.1 hq
    exact hgap.rewrite_eq_of_nil
  · intro u g a v w s t hg ha hV hrest b
    obtain ⟨c, rfl, rfl⟩ := exists_content hr hV
    have hc : Free (elementTags name) c := (Free.append _ _ (Free.append _ _ ha).1).2
    rw [(rewrites_element hr hg hc t).rewrite_eq (hrest _), List.append_assoc]

end Marked

/-! ## Deletions -/

/-- Replaces double tildes by dashes. -/
def replaceTildes : Text → Text :=
  (marker '~' "~".toList).replace fun _ => "-".toList

lemma not_mem_append (x : Char) (s t : Text) (h : x ∉ s ++ t) : x ∉ s ∧ x ∉ t :=
  not_or.1 (mt List.mem_append.2 h)

lemma rewrites_not_mem {b : Option Char} (h : '~' ∉ g) (t : Text) :
    (marker '~' "~".toList).Rewrites (fun _ => "-".toList) b g g t :=
  opensWith_marker.rewrites_self fun _ hx hmem => h (List.mem_singleton.1 hmem ▸ hx)

lemma replaceTildes_apply (hs : '~' ∉ s) : replaceTildes (Rule.delete.apply ⟨true⟩ s) = s := by
  have hcut := Rule.cut_apply (r := .delete) (o := ⟨true⟩) (by decide) (fun _ => rfl) s
  refine hcut.lift (P := ('~' ∉ ·))
    (R := fun s t => ∀ b, (marker '~' "~".toList).rewrite (fun _ => "-".toList) b t = s)
    (not_mem_append '~') ?_ ?_ hs none
  · intro g hg b
    exact (rewrites_not_mem hg []).rewrite_eq_of_nil
  · intro u g a v w s t hg ha hV hrest b
    cases hV with
    | @delete _ c =>
      have htildes (b : Option Char) (r : Text) :
          (marker '~' "~".toList).Rewrites (fun _ => "-".toList) b "~~".toList "-".toList r :=
        rewrites_span (a := ()) (read_marker_iff.2 ⟨rfl, rfl⟩) rfl
      have hc : '~' ∉ c := fun h => ha (by simp [h])
      have hspan : (marker '~' "~".toList).Rewrites (fun _ => "-".toList) b
          (g ++ ("~~".toList ++ c ++ "~~".toList)) (g ++ ("-".toList ++ c ++ "-".toList)) t :=
        .append (rewrites_not_mem hg _)
          (.append (.append (htildes _ _) (rewrites_not_mem hc _)) (htildes _ t))
      rw [hspan.rewrite_eq (hrest _)]
      simp
    | element hr => simp [Rule.elementRules] at hr

/-! ## Monospaced text -/

/-- Writes each `x` of a text as one of two words by turns. -/
def byTurns (x : Char) : Text → Text → Text → Text
  | _, _, [] => []
  | m, n, c :: s => if c = x then m ++ byTurns x n m s else c :: byTurns x m n s

@[simp] lemma byTurns_self (x : Char) (m n s : Text) :
    byTurns x m n (x :: s) = m ++ byTurns x n m s := by
  simp [byTurns]

lemma byTurns_append {x : Char} {m n : Text} (h : x ∉ g) (s : Text) :
    byTurns x m n (g ++ s) = g ++ byTurns x m n s := by
  induction g with
  | nil => rfl
  | cons c g ih =>
    obtain ⟨hc, hg⟩ : x ≠ c ∧ x ∉ g := by simpa using h
    simp [byTurns, Ne.symm hc, ih hg]

lemma byTurns_of_not_mem {x : Char} {m n : Text} (h : x ∉ g) : byTurns x m n g = g := by
  simpa [byTurns] using byTurns_append (m := m) (n := n) h []

/-- The backticks that the rule writes come in pairs, and stand for braces by turns. -/
lemma byTurns_apply (o : Options) (hs : '`' ∉ s) : Even ((Rule.monospace.apply o s).count '`') ∧
    byTurns '`' "\x7b\x7b".toList "\x7d\x7d".toList (Rule.monospace.apply o s) = s := by
  have hcut := Rule.cut_apply (r := .monospace) (o := o) (by decide) (fun h => by cases h) s
  refine hcut.lift (P := ('`' ∉ ·)) (R := fun s t => Even (t.count '`') ∧
    byTurns '`' "\x7b\x7b".toList "\x7d\x7d".toList t = s) (not_mem_append '`') ?_ ?_ hs
  · intro g hg
    exact ⟨by simp [List.count_eq_zero_of_not_mem hg], byTurns_of_not_mem hg⟩
  · rintro u g a v w s t hg ha hV ⟨heven, hrest⟩
    cases hV with
    | @monospace _ c =>
      have hc : '`' ∉ c := fun h => ha (by simp [h])
      have hcount : (g ++ ("`".toList ++ c ++ "`".toList) ++ t).count '`' = t.count '`' + 2 := by
        simp [List.count_append, List.count_eq_zero_of_not_mem hg, List.count_eq_zero_of_not_mem hc]
      refine ⟨hcount ▸ heven.add even_two, ?_⟩
      change byTurns '`' _ _ (g ++ ('`' :: c ++ ['`']) ++ t) = _
      simp only [List.append_assoc, List.cons_append, List.nil_append, byTurns_append hg,
        byTurns_append hc, byTurns_self, hrest]
    | element hr => simp [Rule.elementRules] at hr

/-! ## All rules -/

/-- What these rules write for delimiters can be taken back. A text without the tags of an element is
found again if the tags in what is written are replaced by the mark that they are written for. A text
without tildes is found again if the double tildes of struck text are replaced by dashes. A text without
backticks gets an even number of them, and is found again if they are replaced by double braces, opening
and closing ones by turns. -/
theorem marks_restored (o : Options) (s : Text) :
    (∀ r mark name, (r, mark, name) ∈ markedRules → Free (elementTags name) s →
      replaceTags name mark (r.apply o s) = s) ∧
    ('~' ∉ s → replaceTildes (Rule.delete.apply ⟨true⟩ s) = s) ∧
    ('`' ∉ s → Even ((Rule.monospace.apply o s).count '`') ∧
      byTurns '`' "\x7b\x7b".toList "\x7d\x7d".toList (Rule.monospace.apply o s) = s) :=
  ⟨fun _ _ _ hr hs => replaceTags_apply hr o hs, replaceTildes_apply, byTurns_apply o⟩

/-- Delimiters that are left over, and what looks like the beginning of a tag. -/
theorem marks_restored_leftover :
    replaceTags "cite" "??".toList (Rule.citation.apply {} "<cite??a???b".toList) =
      "<cite??a???b".toList ∧
    replaceTildes (Rule.delete.apply ⟨true⟩ "-a- -b".toList) = "-a- -b".toList ∧
    byTurns '`' "\x7b\x7b".toList "\x7d\x7d".toList
      (Rule.monospace.apply {} "\x7b\x7b\x7ba\x7d\x7d\x7d".toList) = "\x7b\x7b\x7ba\x7d\x7d\x7d".toList :=
  ⟨(marks_restored {} _).1 _ _ _ (by decide) (by decide), (marks_restored {} _).2.1 (by decide),
    ((marks_restored {} _).2.2 (by decide)).2⟩

end Wikidown
