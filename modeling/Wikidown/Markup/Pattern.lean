import Wikidown.Text.Basic

/-!
# Patterns and spans

A pattern says whether a span begins at a place of a text. It sees the character before the place
and all text from the place on, and it answers with the span's source, what was captured of it,
and the text that follows. `Pattern.pieces` reads a text from left to right: where no span begins,
one character stays plain; where one begins, reading goes on behind it. A rule renders
the pieces. The main statements are that the pieces hold the whole text (`source_pieces`) and that
reading stops at no place where a span begins (`pieces_eq_span`, `pieces_eq_plain`).
-/

namespace Wikidown

/-- A span found in a text: its source, what was captured of it, and the text behind it. -/
structure Span (α : Type) where
  source : Text
  captured : α
  rest : Text

/-- Whether a span begins between the character before and the text that follows. -/
structure Pattern (α : Type) where
  read : Option Char → Text → Option (Span α)
  /-- A span is a nonempty front part of the text. -/
  splits : ∀ {b s m}, read b s = some m → m.source ≠ [] ∧ s = m.source ++ m.rest

/-- A part of a text that was read with a pattern. -/
inductive Piece (α : Type)
  | plain (c : Char)
  | span (source : Text) (captured : α)

namespace Piece

/-- The text that a piece stands for. -/
def source {α : Type} : Piece α → Text
  | plain c => [c]
  | span s _ => s

/-- A piece with its span replaced; a plain character stays as it is. -/
def render {α : Type} (f : α → Text) : Piece α → Text
  | plain c => [c]
  | span _ a => f a

end Piece

namespace Pattern

variable {α : Type}

theorem rest_lt {pat : Pattern α} {b : Option Char} {s : Text} {m : Span α}
    (h : pat.read b s = some m) : m.rest.length < s.length := by
  obtain ⟨hne, hs⟩ := pat.splits h
  have := List.length_pos_iff.2 hne
  simp only [hs, List.length_append]
  omega

theorem read_nil (pat : Pattern α) (b : Option Char) : pat.read b [] = none := by
  cases h : pat.read b [] with
  | none => rfl
  | some m => exact absurd (rest_lt h) (by simp)

/-- Reads a text into plain characters and spans, from left to right. -/
def pieces (pat : Pattern α) (b : Option Char) (s : Text) : List (Piece α) :=
  match _h : pat.read b s with
  | some m => .span m.source m.captured :: pieces pat m.source.getLast? m.rest
  | none =>
    match s with
    | [] => []
    | c :: t => .plain c :: pieces pat (some c) t
termination_by s.length
decreasing_by
  · exact rest_lt _h
  · exact Nat.lt_succ_self t.length

@[simp] theorem pieces_nil (pat : Pattern α) (b : Option Char) : pat.pieces b [] = [] := by
  unfold pieces
  split
  · next m h => exact absurd (pat.read_nil b ▸ h) (by simp)
  · rfl

theorem pieces_eq_span {pat : Pattern α} {b : Option Char} {s : Text} {m : Span α}
    (h : pat.read b s = some m) :
    pat.pieces b s = .span m.source m.captured :: pat.pieces m.source.getLast? m.rest := by
  rw [pieces]
  split
  · next m' h' => rw [h] at h'; cases h'; rfl
  · next h' => rw [h] at h'; cases h'

theorem pieces_eq_plain {pat : Pattern α} {b : Option Char} {c : Char} {t : Text}
    (h : pat.read b (c :: t) = none) :
    pat.pieces b (c :: t) = .plain c :: pat.pieces (some c) t := by
  rw [pieces]
  split
  · next m' h' => rw [h] at h'; cases h'
  · rfl

/-- The pieces hold every character of the text, in order. -/
theorem source_pieces (pat : Pattern α) (b : Option Char) (s : Text) :
    (pat.pieces b s).flatMap Piece.source = s := by
  induction hn : s.length using Nat.strongRecOn generalizing b s with
  | ind n ih =>
    cases h : pat.read b s with
    | some m =>
      rw [pieces_eq_span h, List.flatMap_cons, ih _ (hn ▸ rest_lt h) _ _ rfl]
      exact (pat.splits h).2.symm
    | none =>
      cases s with
      | nil => simp
      | cons c t =>
        rw [pieces_eq_plain h, List.flatMap_cons, ih t.length (by simp [← hn]) _ _ rfl]
        rfl

/-- Replaces every span of the text, from left to right. -/
def replace (pat : Pattern α) (f : α → Text) (s : Text) : Text :=
  (pat.pieces none s).flatMap (Piece.render f)

/-- Keeps the spans that fit between the character before them and the text behind them. -/
def filter (pat : Pattern α) (fits : Option Char → α → Text → Bool) : Pattern α where
  read b s := (pat.read b s).filter fun m => fits b m.captured m.rest
  splits h := pat.splits (Option.filter_eq_some_iff.1 h).1

/-- Reads with the first pattern, and where it finds nothing with the second. -/
def orElse (p q : Pattern α) : Pattern α where
  read b s := (p.read b s).or (q.read b s)
  splits h := (Option.or_eq_some_iff.1 h).elim p.splits fun h => q.splits h.2

/-- A pattern whose spans begin where a line begins. -/
def atLineStart (pat : Pattern α) : Pattern α :=
  pat.filter fun b _ _ => b == none || b == some '\n'

/-- The fixed marker `c :: m`. -/
def marker (c : Char) (m : Text) : Pattern Unit where
  read _ s := (Text.after? (c :: m) s).map fun r => ⟨c :: m, (), r⟩
  splits h := by
    obtain ⟨r, hr, rfl⟩ := Option.map_eq_some_iff.1 h
    exact ⟨List.cons_ne_nil _ _, Text.after?_eq_some_iff.1 hr⟩

/-- The opening `c :: m`, all characters that may stand `inside`, and then the closing. -/
def between (c : Char) (m : Text) (inside : Char → Bool) (closing : Text) : Pattern Text where
  read _ s :=
    (Text.after? (c :: m) s).bind fun t =>
      (Text.after? closing (t.dropWhile inside)).map fun r =>
        ⟨c :: m ++ t.takeWhile inside ++ closing, t.takeWhile inside, r⟩
  splits h := by
    obtain ⟨t, ht, h⟩ := Option.bind_eq_some_iff.1 h
    obtain ⟨r, hr, rfl⟩ := Option.map_eq_some_iff.1 h
    refine ⟨List.cons_ne_nil _ _, ?_⟩
    rw [Text.after?_eq_some_iff.1 ht]
    simp only [List.append_assoc, ← Text.after?_eq_some_iff.1 hr, List.takeWhile_append_dropWhile]

/-- A span `between` two markers with at least one character inside. -/
def around (c : Char) (m : Text) (inside : Char → Bool) (closing : Text) : Pattern Text :=
  (between c m inside closing).filter fun _ content _ => !content.isEmpty

end Pattern

end Wikidown
