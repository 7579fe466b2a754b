import Mathlib.Data.List.DropRight
import Wikidown.Proofs.Breaks

/-!
# The lines of a quote

A quote loses the break behind its opening marker, the break before its closing marker and the empty
lines at its end. Line by line this is one rule: the first line goes if it is empty and another one
follows, and then all empty lines at the end go except the first (`quoteLines_eq`).
-/

namespace Wikidown

namespace Text

@[simp] lemma lines_nil : lines [] = [[]] :=
  rfl

lemma lines_break (s : Text) : lines ('\n' :: s) = [] :: lines s :=
  lines_append_break (a := []) (by simp) s

lemma lines_crlf (s : Text) : lines ('\r' :: '\n' :: s) = [] :: lines s :=
  lines_break s

lemma unifyBreaks_append_crlf (a b : Text) :
    unifyBreaks (a ++ '\r' :: '\n' :: b) = unifyBreaks a ++ '\n' :: unifyBreaks b := by
  induction a using unifyBreaks.induct with
  | case1 => rfl
  | case2 a ih =>
    rw [unifyBreaks_break, List.cons_append, List.cons_append, unifyBreaks_break, ih]
    rfl
  | case3 c a hbreak ih =>
    have hc : c = '\r' → a.head? ≠ some '\n' := by
      rintro rfl e
      obtain ⟨t, rfl⟩ := List.head?_eq_some_iff.1 e
      exact hbreak t rfl rfl
    have hc' : c = '\r' → (a ++ '\r' :: '\n' :: b).head? ≠ some '\n' := by
      rintro rfl e
      cases a with
      | nil => cases e
      | cons d a => exact hc rfl (by simpa using e)
    rw [List.cons_append, unifyBreaks_cons hc', ih, unifyBreaks_cons hc]
    rfl

/-- A carriage return and a line feed end a line, and a new one begins behind them. -/
lemma lines_append_crlf (a b : Text) : lines (a ++ '\r' :: '\n' :: b) = lines a ++ lines b := by
  rw [lines, unifyBreaks_append_crlf, List.splitOn_append_cons_self]
  rfl

/-- The first line is empty only in front of a break or at the end of the text. -/
lemma head?_lines_eq_nil {s : Text} (h : (lines s).head? = some []) :
    s = [] ∨ (∃ t, s = '\n' :: t) ∨ ∃ t, s = '\r' :: '\n' :: t := by
  obtain ⟨ls, hls⟩ := List.head?_eq_some_iff.1 h
  have hs := unlines_lines s
  rw [hls] at hs
  have hhead : ∀ c, (unifyBreaks s).head? = some c → c = '\n' := by
    intro c hc
    rw [← hs] at hc
    cases ls with
    | nil => cases hc
    | cons l ls =>
      rw [unlines_cons (by simp)] at hc
      cases hc
      rfl
  fun_cases unifyBreaks s with
  | case1 => exact .inl rfl
  | case2 t => exact .inr (.inr ⟨t, rfl⟩)
  | case3 c t hbreak =>
    have hc : c = '\r' → t.head? ≠ some '\n' := by
      rintro rfl e
      obtain ⟨t, rfl⟩ := List.head?_eq_some_iff.1 e
      exact hbreak t rfl rfl
    rw [unifyBreaks_cons hc] at hhead
    obtain rfl := hhead c rfl
    exact .inr (.inl ⟨t, rfl⟩)

end Text

namespace Markup

open Text

variable {s : Text}

/-- Lines without the first one if it is empty and not the only one. -/
def dropEmptyHead : List Text → List Text
  | [] :: l :: ls => l :: ls
  | ls => ls

/-- The lines of a quote that are written: without the first one if it is empty and not the only
one, and then without the empty ones at the end, as long as one line is left. -/
def keptLines (ls : List Text) : List Text :=
  (dropEmptyHead ls).take 1 ++ ((dropEmptyHead ls).drop 1).rdropWhile List.isEmpty

lemma dropEmptyHead_cons {ls : List Text} (h : ls ≠ []) : dropEmptyHead ([] :: ls) = ls := by
  cases ls with
  | nil => exact absurd rfl h
  | cons l ls => rfl

lemma dropEmptyHead_eq_self {ls : List Text} (h : ls.head? ≠ some []) : dropEmptyHead ls = ls := by
  fun_cases dropEmptyHead ls with
  | case1 l ls => exact absurd rfl h
  | case2 => rfl

/-- Without the leading break, the empty line in front of it is gone. -/
lemma lines_dropLeadingBreak (s : Text) : lines (dropLeadingBreak s) = dropEmptyHead (lines s) := by
  fun_cases dropLeadingBreak s with
  | case1 s => rw [lines_break, dropEmptyHead_cons (lines_ne_nil s)]
  | case2 s => rw [lines_crlf, dropEmptyHead_cons (lines_ne_nil s)]
  | case3 s h1 h2 =>
    by_cases hs : s = []
    · rw [hs]
      rfl
    · rw [dropEmptyHead_eq_self]
      intro e
      rcases head?_lines_eq_nil e with rfl | ⟨t, rfl⟩ | ⟨t, rfl⟩
      · exact hs rfl
      · exact h1 t rfl
      · exact h2 t rfl

lemma dropEmptyTail_eq (ls : List Text) :
    dropEmptyTail ls = ls.take 1 ++ (ls.drop 1).rdropWhile List.isEmpty := by
  cases ls <;> rfl

/-- An empty line at the end is dropped with the others. -/
lemma dropEmptyTail_concat {ls : List Text} (h : ls ≠ []) :
    dropEmptyTail (ls ++ [[]]) = dropEmptyTail ls := by
  obtain ⟨l, ls, rfl⟩ := List.exists_cons_of_ne_nil h
  simp [dropEmptyTail]

/-- The trailing break makes an empty line, which is dropped anyway. -/
lemma dropEmptyTail_lines_dropTrailingBreak (s : Text) :
    dropEmptyTail (lines (dropTrailingBreak s)) = dropEmptyTail (lines s) := by
  by_cases hs : s.getLast? = some '\n'
  · obtain ⟨t, rfl⟩ := List.getLast?_eq_some_iff.1 hs
    by_cases ht : t.getLast? = some '\r'
    · obtain ⟨u, rfl⟩ := List.getLast?_eq_some_iff.1 ht
      have hcrlf : u ++ ['\r'] ++ ['\n'] = u ++ ['\r', '\n'] := by simp
      rw [hcrlf, dropTrailingBreak_crlf, lines_append_crlf, lines_nil,
        dropEmptyTail_concat (lines_ne_nil u)]
    · rw [dropTrailingBreak_break ht, lines_append_break ht, lines_nil,
        dropEmptyTail_concat (lines_ne_nil t)]
  · rw [dropTrailingBreak_eq_self hs]

/-- What the breaks at the ends and the empty lines lose together. -/
lemma quoteLines_eq (content : Text) : quoteLines content = keptLines (lines content) := by
  rw [quoteLines, dropEmptyTail_lines_dropTrailingBreak, lines_dropLeadingBreak, dropEmptyTail_eq,
    keptLines]

/-- A content whose lines end in line feeds alone is written line by line. -/
lemma renderQuote_eq {content : Text} (h : '\r' ∉ content) :
    renderQuote content =
      unlines ((keptLines (content.splitOn '\n')).map fun l => quoteMark ++ l) := by
  rw [renderQuote, quoteLines_eq, lines, unifyBreaks_eq_self h]

/-- A quote is written with the characters of its content, apart from marks of its own. -/
lemma mem_renderQuote_iff {content : Text} {x : Char} (hx : x ∉ "> \r\n".toList) :
    x ∈ renderQuote content ↔ x ∈ content := by
  obtain ⟨hq, hb, hr, hn⟩ : x ≠ '>' ∧ x ≠ ' ' ∧ x ≠ '\r' ∧ x ≠ '\n' := by simpa using hx
  have hrp : ('\r' == x) = false := by simpa using hr.symm
  have hnp : ('\n' == x) = false := by simpa using hn.symm
  have key : (renderQuote content).filter (· == x) = content.filter (· == x) := by
    rw [filter_renderQuote hnp (by simpa using hq.symm) (by simpa using hb.symm),
      filter_unifyBreaks hrp, filter_dropTrailingBreak hrp hnp, filter_dropLeadingBreak hrp hnp]
  rw [← not_iff_not, ← filter_beq_eq_nil_iff, ← filter_beq_eq_nil_iff, key]

end Markup

end Wikidown
