import Mathlib.Tactic.Lemma
import Mathlib.Data.List.Basic
import Wikidown.Markup.Pattern

/-!
# Reading a text with a pattern

What the proofs about rules rest on. `Pattern.readInduction` is induction along the reading of a
text, and `Pattern.rewrite` is the replacement of spans behind a given character, with one equation
for each step of the reading. The lemmas `read_*_iff` invert the combinators of patterns: they say
what a span that was read looks like. The last part says what a replacement keeps as soon as each
span keeps it: the characters of a class in their order (`filter_replace`), and the character at the
end (`getLast?_replace`).
-/

namespace Wikidown

namespace Text

/-- A front part that holds no `x` is not affected by what stands behind an `x`. -/
lemma after?_append_cons {m s t : Text} {x : Char} (h : x ∉ m) :
    after? m (s ++ x :: t) = (after? m s).map (· ++ x :: t) := by
  induction m generalizing s with
  | nil => simp [after?]
  | cons a m ih =>
    obtain ⟨ha, hm⟩ : x ≠ a ∧ x ∉ m := by simpa using h
    cases s with
    | nil => simp [after?, Ne.symm ha]
    | cons c s =>
      by_cases hc : a = c
      · simp [after?, hc, ih hm]
      · simp [after?, hc]

/-- A character outside a class ends the run of that class. -/
lemma takeWhile_append_cons {p : Char → Bool} {s t : Text} {x : Char} (h : p x = false) :
    (s ++ x :: t).takeWhile p = s.takeWhile p := by
  induction s with
  | nil => simp [h]
  | cons c s ih => cases hc : p c <;> simp [hc, ih]

/-- What follows the run of a class, when a character outside the class comes later. -/
lemma dropWhile_append_cons {p : Char → Bool} {s t : Text} {x : Char} (h : p x = false) :
    (s ++ x :: t).dropWhile p = s.dropWhile p ++ x :: t := by
  induction s with
  | nil => simp [h]
  | cons c s ih => cases hc : p c <;> simp [hc, ih]

/-- What closes a run is not affected by a text that begins with `x`, if the closing does not hold
`x`, and `x` either ends the run or is the last character. -/
lemma after?_dropWhile_append {p : Char → Bool} {closing s t : Text} {x : Char} (hx : x ∉ closing)
    (hp : p x = false ∨ t = [] ∧ closing ≠ []) :
    after? closing ((s ++ x :: t).dropWhile p) =
      (after? closing (s.dropWhile p)).map (· ++ x :: t) := by
  by_cases hpx : p x = false
  · rw [dropWhile_append_cons hpx, after?_append_cons hx]
  · obtain ⟨rfl, hc⟩ := hp.resolve_left hpx
    have hnil : after? closing [] = none := by
      cases closing with
      | nil => exact absurd rfl hc
      | cons a m => rfl
    rw [List.dropWhile_append]
    by_cases hs : s.dropWhile p = []
    · simp [hs, hpx, hnil]
    · simp [hs, after?_append_cons hx]

/-- A closed run is the same whether or not a text that begins with `x` follows it. -/
lemma takeWhile_append_of_after? {p : Char → Bool} {closing s t r : Text} {x : Char}
    (hp : p x = false ∨ t = [] ∧ closing ≠ []) (h : after? closing (s.dropWhile p) = some r) :
    (s ++ x :: t).takeWhile p = s.takeWhile p := by
  rcases hp with hp | ⟨-, hc⟩
  · exact takeWhile_append_cons hp
  · have hs : s.dropWhile p ≠ [] := by
      rw [after?_eq_some_iff.1 h]
      simp [hc]
    have hlt : (s.takeWhile p).length ≠ s.length := by
      intro e
      have hl := congrArg List.length (List.takeWhile_append_dropWhile (p := p) (l := s))
      rw [List.length_append] at hl
      exact hs (List.length_eq_zero_iff.1 (by omega))
    rw [List.takeWhile_append, if_neg hlt]

/-- A run of a class is followed by nothing of that class. -/
lemma takeWhile_dropWhile (p : Char → Bool) (s : Text) : (s.dropWhile p).takeWhile p = [] := by
  induction s with
  | nil => rfl
  | cons c s ih => cases hc : p c <;> simp [hc, ih]

/-- A run of a class that nothing of the class follows is the whole run. -/
lemma takeWhile_append_of_stop {p : Char → Bool} {u v : Text} (hu : ∀ x ∈ u, p x = true)
    (hv : v.takeWhile p = []) : (u ++ v).takeWhile p = u := by
  rw [List.takeWhile_append_of_pos hu, hv, List.append_nil]

/-- What follows a run of a class that nothing of the class follows. -/
lemma dropWhile_append_of_stop {p : Char → Bool} {u v : Text} (hu : ∀ x ∈ u, p x = true)
    (hv : v.takeWhile p = []) : (u ++ v).dropWhile p = v := by
  rw [List.dropWhile_append_of_pos hu]
  have := List.takeWhile_append_dropWhile (p := p) (l := v)
  rwa [hv] at this

/-- A text whose first character is in a class is that character and the rest. -/
lemma exists_cons_of_any_head? {p : Char → Bool} {s : Text} (h : s.head?.any p = true) :
    ∃ x t, s = x :: t ∧ p x = true := by
  cases s with
  | nil => cases h
  | cons x t => exact ⟨x, t, rfl, h⟩

/-- A marker is not at the front of a text whose first part differs from it. -/
lemma after?_append_eq_none {m s t : Text} (hm : ¬ m <+: s) (hs : ¬ s <+: m) :
    after? m (s ++ t) = none := by
  cases h : after? m (s ++ t) with
  | none => rfl
  | some r =>
    have hpre : m <+: s ++ t := ⟨r, (after?_eq_some_iff.1 h).symm⟩
    exact (List.prefix_or_prefix_of_prefix hpre (List.prefix_append s t)).elim
      (fun h => absurd h hm) fun h => absurd h hs

/-- A text without the first character of a marker is cut at the marker that follows it. -/
lemma cut?_append {m a r : Text} {x : Char} (hm : m.head? = some x) (h : x ∉ a) :
    cut? m (a ++ (m ++ r)) = some (a, r) := by
  obtain ⟨m, rfl⟩ := List.head?_eq_some_iff.1 hm
  induction a with
  | nil =>
    have hafter : after? (x :: m) (x :: (m ++ r)) = some r := after?_append (x :: m) r
    simp [cut?, hafter]
  | cons c a ih =>
    obtain ⟨hc, ha⟩ : x ≠ c ∧ x ∉ a := by simpa using h
    have hnone : after? (x :: m) (c :: (a ++ (x :: m ++ r))) = none := by simp [after?, hc]
    rw [List.cons_append, cut?, hnone]
    simp only [ih ha, Option.map_some]

lemma isSome_cut?_iff {m s : Text} (hm : m ≠ []) : (cut? m s).isSome = true ↔ m <:+: s := by
  constructor
  · intro h
    obtain ⟨p, hp⟩ := Option.isSome_iff_exists.1 h
    exact ⟨p.1, p.2, (cut?_eq_some hp).symm⟩
  · intro h
    induction s with
    | nil => exact absurd (List.infix_nil.1 h) hm
    | cons c s ih =>
      rw [cut?]
      split
      · rfl
      · next hafter =>
        rcases List.infix_cons_iff.1 h with ⟨r, hr⟩ | h
        · rw [after?_eq_some_iff.2 hr.symm] at hafter
          cases hafter
        · simpa using ih h

lemma filter_beq_eq_nil_iff {s : Text} {x : Char} : s.filter (· == x) = [] ↔ x ∉ s := by
  rw [List.filter_eq_nil_iff]
  constructor
  · intro h hx
    exact h x hx (by simp)
  · rintro h y hy e
    exact h (beq_iff_eq.1 e ▸ hy)

end Text

namespace Pattern

variable {α : Type} {pat : Pattern α} {f : α → Text}

/-- Induction along the reading of a text: a span is passed as a whole, and where none begins one
character is passed. -/
@[elab_as_elim]
lemma readInduction (pat : Pattern α) {motive : Option Char → Text → Prop}
    (nil : ∀ b, motive b [])
    (plain : ∀ b c t, pat.read b (c :: t) = none → motive (some c) t → motive b (c :: t))
    (span : ∀ b s m, pat.read b s = some m → motive m.source.getLast? m.rest → motive b s)
    (b : Option Char) (s : Text) : motive b s := by
  -- the text behind a span is shorter, but it is no tail of the list
  induction hn : s.length using Nat.strongRecOn generalizing b s with
  | ind n ih =>
    cases h : pat.read b s with
    | some m => exact span b s m h (ih _ (hn ▸ rest_lt h) _ _ rfl)
    | none =>
      cases s with
      | nil => exact nil b
      | cons c t => exact plain b c t h (ih t.length (by simp [← hn]) _ _ rfl)

/-- Replaces the spans of a text that stands behind the given character. -/
def rewrite (pat : Pattern α) (f : α → Text) (b : Option Char) (s : Text) : Text :=
  (pat.pieces b s).flatMap (Piece.render f)

lemma replace_eq_rewrite (s : Text) : pat.replace f s = pat.rewrite f none s :=
  rfl

@[simp] lemma rewrite_nil (b : Option Char) : pat.rewrite f b [] = [] := by
  simp [rewrite]

lemma rewrite_span {b : Option Char} {s : Text} {m : Span α} (h : pat.read b s = some m) :
    pat.rewrite f b s = f m.captured ++ pat.rewrite f m.source.getLast? m.rest := by
  simp [rewrite, pieces_eq_span h, Piece.render]

lemma rewrite_plain {b : Option Char} {c : Char} {t : Text} (h : pat.read b (c :: t) = none) :
    pat.rewrite f b (c :: t) = c :: pat.rewrite f (some c) t := by
  simp [rewrite, pieces_eq_plain h, Piece.render]

/-! ## The shape of a span -/

lemma source_append_rest {b : Option Char} {s : Text} {m : Span α} (h : pat.read b s = some m) :
    m.source ++ m.rest = s :=
  (pat.splits h).2.symm

/-- All spans of the pattern begin with one of the given characters. -/
def OpensWith (pat : Pattern α) (cs : Text) : Prop :=
  ∀ b s m, pat.read b s = some m → ∃ c ∈ cs, m.source.head? = some c

lemma OpensWith.read_eq_none {cs : Text} (h : pat.OpensWith cs) {x : Char} (hx : x ∉ cs)
    (b : Option Char) (s : Text) : pat.read b (x :: s) = none := by
  cases hr : pat.read b (x :: s) with
  | none => rfl
  | some m =>
    obtain ⟨c, hc, hm⟩ := h b _ m hr
    obtain ⟨t, ht⟩ := List.head?_eq_some_iff.1 hm
    have hs := source_append_rest hr
    rw [ht] at hs
    cases hs
    exact absurd hc hx

lemma read_filter_iff {fits : Option Char → α → Text → Bool} {b : Option Char} {s : Text}
    {m : Span α} :
    (pat.filter fits).read b s = some m ↔
      pat.read b s = some m ∧ fits b m.captured m.rest = true :=
  Option.filter_eq_some_iff

lemma read_orElse_iff {p q : Pattern α} {b : Option Char} {s : Text} {m : Span α} :
    (p.orElse q).read b s = some m ↔
      p.read b s = some m ∨ p.read b s = none ∧ q.read b s = some m :=
  Option.or_eq_some_iff

lemma read_atLineStart_iff {b : Option Char} {s : Text} {m : Span α} :
    pat.atLineStart.read b s = some m ↔ pat.read b s = some m ∧ (b = none ∨ b = some '\n') := by
  rw [atLineStart, read_filter_iff]
  simp

lemma read_marker_iff {c : Char} {m : Text} {b : Option Char} {s : Text} {p : Span Unit} :
    (marker c m).read b s = some p ↔ s = c :: m ++ p.rest ∧ p.source = c :: m := by
  constructor
  · intro h
    obtain ⟨r, hr, rfl⟩ := Option.map_eq_some_iff.1 h
    exact ⟨Text.after?_eq_some_iff.1 hr, rfl⟩
  · rintro ⟨rfl, hs⟩
    obtain ⟨source, captured, rest⟩ := p
    cases hs
    exact Option.map_eq_some_iff.2 ⟨rest, Text.after?_append _ _, rfl⟩

lemma read_between_iff {c : Char} {m closing : Text} {inside : Char → Bool} {b : Option Char}
    {s : Text} {p : Span Text} :
    (between c m inside closing).read b s = some p ↔
      s = p.source ++ p.rest ∧ p.source = c :: m ++ p.captured ++ closing ∧
        (∀ x ∈ p.captured, inside x = true) ∧ (closing ++ p.rest).takeWhile inside = [] := by
  constructor
  · intro h
    refine ⟨(source_append_rest h).symm, ?_⟩
    obtain ⟨t, ht, h⟩ := Option.bind_eq_some_iff.1 h
    obtain ⟨r, hr, rfl⟩ := Option.map_eq_some_iff.1 h
    refine ⟨rfl, ?_, ?_⟩
    · exact List.all_eq_true.1 List.all_takeWhile
    · rw [← Text.after?_eq_some_iff.1 hr]
      exact Text.takeWhile_dropWhile inside t
  · obtain ⟨source, captured, rest⟩ := p
    rintro ⟨rfl, hs, hin, hstop⟩
    simp only at hs hin hstop
    subst hs
    have ht : (captured ++ (closing ++ rest)).takeWhile inside = captured :=
      Text.takeWhile_append_of_stop hin hstop
    have hd : (captured ++ (closing ++ rest)).dropWhile inside = closing ++ rest :=
      Text.dropWhile_append_of_stop hin hstop
    refine Option.bind_eq_some_iff.2 ⟨captured ++ (closing ++ rest), ?_, ?_⟩
    · rw [Text.after?_eq_some_iff]
      simp
    · rw [ht, hd, Text.after?_append]
      rfl

lemma read_around_iff {c : Char} {m closing : Text} {inside : Char → Bool} {b : Option Char}
    {s : Text} {p : Span Text} :
    (around c m inside closing).read b s = some p ↔
      (between c m inside closing).read b s = some p ∧ p.captured ≠ [] := by
  rw [around, read_filter_iff]
  simp

/-! ## What a replacement keeps -/

/-- If every span is written with the same characters of a class in the same order, so is the
text. -/
lemma filter_replace {p : Char → Bool}
    (h : ∀ b s m, pat.read b s = some m → (f m.captured).filter p = m.source.filter p) (s : Text) :
    (pat.replace f s).filter p = s.filter p := by
  rw [replace_eq_rewrite]
  generalize none = b
  induction b, s using readInduction pat with
  | nil b => simp
  | plain b c t hr ih => rw [rewrite_plain hr, List.filter_cons, ih, List.filter_cons]
  | span b s m hr ih =>
    rw [rewrite_span hr, List.filter_append, h b s m hr, ih, ← List.filter_append,
      source_append_rest hr]

/-- A text in which no span begins anywhere stays as it is. -/
lemma replace_eq_self {s : Text} (h : ∀ b t, t <:+ s → pat.read b t = none) :
    pat.replace f s = s := by
  rw [replace_eq_rewrite]
  generalize none = b
  induction s generalizing b with
  | nil => simp
  | cons c s ih =>
    rw [rewrite_plain (h b _ (List.suffix_refl _)), ih]
    exact fun b t ht => h b t (ht.trans (List.suffix_cons c s))

/-- A text without a character that all spans hold stays as it is. -/
lemma replace_eq_self_of_not_mem {s : Text} {x : Char}
    (h : ∀ b t m, pat.read b t = some m → x ∈ m.source) (hx : x ∉ s) : pat.replace f s = s := by
  apply replace_eq_self
  intro b t ht
  cases hr : pat.read b t with
  | none => rfl
  | some m =>
    have hm : x ∈ t := source_append_rest hr ▸ List.mem_append_left _ (h b t m hr)
    exact absurd (ht.subset hm) hx

/-- A text without a word that all spans begin with stays as it is. -/
lemma replace_eq_self_of_not_isInfix {s w : Text}
    (h : ∀ b t m, pat.read b t = some m → w <+: t) (hw : ¬ w <:+: s) : pat.replace f s = s := by
  apply replace_eq_self
  intro b t ht
  cases hr : pat.read b t with
  | none => rfl
  | some m => exact absurd ((h b t m hr).isInfix.trans ht.isInfix) hw

/-- A text stays as it is if every span is written as it stands. -/
lemma replace_eq_self_of_source (h : ∀ b s m, pat.read b s = some m → f m.captured = m.source)
    (s : Text) : pat.replace f s = s := by
  rw [replace_eq_rewrite]
  generalize none = b
  induction b, s using readInduction pat with
  | nil b => simp
  | plain b c t hr ih => rw [rewrite_plain hr, ih]
  | span b s m hr ih => rw [rewrite_span hr, h b s m hr, ih, source_append_rest hr]

/-- Every span is written longer than it stood. -/
def Lengthens (pat : Pattern α) (f : α → Text) : Prop :=
  ∀ b s m, pat.read b s = some m → m.source.length < (f m.captured).length

/-- Where spans get longer, no text gets shorter, and one keeps its length only if no span was found
at any place. -/
lemma Lengthens.length_replace (h : pat.Lengthens f) (s : Text) :
    s.length ≤ (pat.replace f s).length ∧
      ((pat.replace f s).length = s.length → ∀ t, t <:+ s → ∃ b, pat.read b t = none) := by
  rw [replace_eq_rewrite]
  generalize none = b
  induction b, s using readInduction pat with
  | nil b =>
    refine ⟨Nat.zero_le _, fun _ t ht => ⟨b, ?_⟩⟩
    rw [List.suffix_nil.1 ht, read_nil]
  | plain b c s hr ih =>
    simp only [rewrite_plain hr, List.length_cons]
    refine ⟨by omega, fun he t ht => ?_⟩
    rcases List.suffix_cons_iff.1 ht with rfl | ht
    · exact ⟨b, hr⟩
    · exact ih.2 (by omega) t ht
  | span b s m hr ih =>
    have hs := congrArg List.length (source_append_rest hr)
    have hm := h b s m hr
    simp only [rewrite_span hr, List.length_append] at hs ⊢
    exact ⟨by omega, fun he => by omega⟩

lemma rewrite_eq_nil_iff (h : ∀ b s m, pat.read b s = some m → f m.captured ≠ [])
    {b : Option Char} {s : Text} : pat.rewrite f b s = [] ↔ s = [] := by
  cases hr : pat.read b s with
  | some m =>
    have hs : s ≠ [] := fun e => by simp [e, read_nil] at hr
    simp [rewrite_span hr, h b s m hr, hs]
  | none =>
    cases s with
    | nil => simp
    | cons c t => simp [rewrite_plain hr]

/-- A character that no span brings to its end stands at the end of the text only if it stood
there before. -/
lemma getLast?_replace {x : Char}
    (h : ∀ b s m, pat.read b s = some m → f m.captured ≠ [] ∧
      ((f m.captured).getLast? = some x → m.source.getLast? = some x))
    {s : Text} (hx : (pat.replace f s).getLast? = some x) : s.getLast? = some x := by
  have hne : ∀ b s m, pat.read b s = some m → f m.captured ≠ [] := fun b s m hr => (h b s m hr).1
  rw [replace_eq_rewrite] at hx
  generalize none = b at hx
  induction b, s using readInduction pat with
  | nil b => simp at hx
  | plain b c t hr ih =>
    rw [rewrite_plain hr] at hx
    cases t with
    | nil => simpa using hx
    | cons d t =>
      have ht : pat.rewrite f (some c) (d :: t) ≠ [] := by simp [rewrite_eq_nil_iff hne]
      rw [List.getLast?_cons_of_ne_nil ht] at hx
      simpa using ih hx
  | span b s m hr ih =>
    rw [rewrite_span hr] at hx
    rw [← source_append_rest hr]
    -- the end of the text is the end of this span, or it lies behind it
    by_cases hm : m.rest = []
    · rw [hm] at hx ⊢
      simpa using (h b s m hr).2 (by simpa using hx)
    · have ht : pat.rewrite f m.source.getLast? m.rest ≠ [] := by
        simp [rewrite_eq_nil_iff hne, hm]
      rw [List.getLast?_append_of_ne_nil _ ht] at hx
      rw [List.getLast?_append_of_ne_nil _ hm]
      exact ih hx

end Pattern

end Wikidown
