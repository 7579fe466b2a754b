import Mathlib.Data.List.DropRight
import Wikidown.Proofs.Openers

/-!
# Header rows

The header row of a table is a list of cells, each behind a double bar, and a double bar at its end
is one more cell that is empty. Cutting it at the double bars gives the cells back
(`splitAt_flatMap`), so the row below has one column for each cell, whether or not the header row is
closed (`writeTableHeaders_row`). A line without a double bar is no header row
(`writeTableHeaders_of_apart`).
-/

namespace Wikidown

namespace Text

variable {m a r : Text} {x : Char} {cells : List Text}

lemma cut?_of_not_mem (hm : m.head? = some x) (h : x ∉ a) : cut? m a = none := by
  cases hcut : cut? m a with
  | none => rfl
  | some p =>
    refine absurd ?_ h
    rw [cut?_eq_some hcut]
    simp [List.mem_of_head? hm]

lemma splitAt_of_not_mem (hm : m.head? = some x) (h : x ∉ a) : splitAt m a = [a] :=
  splitAt_of_cut?_eq_none (cut?_of_not_mem hm h)

lemma splitAt_append (hm : m.head? = some x) (h : x ∉ a) :
    splitAt m (a ++ (m ++ r)) = a :: splitAt m r := by
  refine splitAt_of_cut?_eq_some ?_ (cut?_append hm h)
  rintro rfl
  cases hm

/-- Cutting at the markers in front of some texts gives the texts back. -/
lemma splitAt_flatMap (hm : m.head? = some x) (ha : x ∉ a) (h : ∀ c ∈ cells, x ∉ c) :
    splitAt m (a ++ cells.flatMap (m ++ ·)) = a :: cells := by
  induction cells generalizing a with
  | nil =>
    rw [List.flatMap_nil, List.append_nil]
    exact splitAt_of_not_mem hm ha
  | cons c cells ih =>
    obtain ⟨hc, hcells⟩ := List.forall_mem_cons.1 h
    rw [List.flatMap_cons, List.append_assoc, splitAt_append hm ha, ih hc hcells]

end Text

namespace Markup

open Pattern

variable {s : Text} {cells : List Text} {closed : Bool}

/-- Cells, each behind a bar, and a bar at the end of a closed row. -/
def row (bar : Text) (closed : Bool) (cells : List Text) : Text :=
  cells.flatMap (bar ++ ·) ++ if closed then bar else []

/-- The cells of a row, with an empty one at the end if the row is closed. -/
def closedCells (closed : Bool) (cells : List Text) : List Text :=
  if closed then cells ++ [[]] else cells

/-- The bar that closes a row stands in front of an empty cell. -/
lemma row_eq (bar : Text) (closed : Bool) (cells : List Text) :
    row bar closed cells = (closedCells closed cells).flatMap (bar ++ ·) := by
  cases closed <;> simp [row, closedCells]

lemma not_mem_closedCells {x : Char} (h : ∀ c ∈ cells, x ∉ c) :
    ∀ c ∈ closedCells closed cells, x ∉ c := by
  cases closed with
  | false => exact h
  | true => simpa [closedCells, or_imp, forall_and] using h

lemma not_mem_row {bar : Text} {x : Char} (hb : x ∉ bar) (h : ∀ c ∈ cells, x ∉ c) :
    x ∉ row bar closed cells := by
  rw [row_eq]
  simpa [hb] using not_mem_closedCells h

/-- Each double bar in front of a cell is written as a bar. -/
lemma singleBars_flatMap (h : ∀ c ∈ cells, '|' ∉ c) :
    singleBars (cells.flatMap (headerBar ++ ·)) = cells.flatMap ("|".toList ++ ·) := by
  suffices key : ∀ b, (marker '|' "|".toList).Rewrites (fun _ => "|".toList) b
      (cells.flatMap (headerBar ++ ·)) (cells.flatMap ("|".toList ++ ·)) [] from
    (key none).replace_eq
  induction cells with
  | nil => exact fun b => rfl
  | cons c cells ih =>
    intro b
    obtain ⟨hc, hcells⟩ := List.forall_mem_cons.1 h
    have hbar : (marker '|' "|".toList).Rewrites (fun _ => "|".toList) b headerBar "|".toList
        (c ++ (cells.flatMap (headerBar ++ ·) ++ [])) :=
      rewrites_span (a := ()) (read_marker_iff.2 ⟨rfl, rfl⟩) rfl
    have hcell : ∀ x ∈ c, x ∉ ['|'] := by
      intro x hx
      simpa using ne_of_mem_of_not_mem hx hc
    rw [List.flatMap_cons, List.flatMap_cons]
    refine .append (.append ?_ (opensWith_marker.rewrites_self hcell)) (ih hcells _)
    simpa using hbar

/-- There is one piece for each cell, and one before the first bar. -/
lemma headerColumns_row (hne : cells ≠ []) (hcells : ∀ c ∈ cells, c ≠ [])
    (h : ∀ c ∈ cells, '|' ∉ c) :
    headerColumns (row headerBar closed cells) = cells.length + 1 := by
  have hsplit : Text.splitAt headerBar ((closedCells closed cells).flatMap (headerBar ++ ·)) =
      [] :: closedCells closed cells :=
    Text.splitAt_flatMap (a := []) rfl List.not_mem_nil (not_mem_closedCells h)
  have hlast : ([] :: cells).rdropWhile List.isEmpty = [] :: cells := by
    rw [List.rdropWhile_eq_self_iff]
    intro _
    rw [List.getLast_cons hne, List.isEmpty_iff]
    exact hcells _ (List.getLast_mem hne)
  have hdrop : ([] :: closedCells closed cells).rdropWhile List.isEmpty = [] :: cells := by
    cases closed with
    | false => exact hlast
    | true =>
      rw [closedCells, if_pos rfl, ← List.cons_append, List.rdropWhile_concat_pos _ _ _ rfl, hlast]
  rw [headerColumns, row_eq, hsplit, ← List.length_reverse]
  exact congrArg List.length hdrop

lemma headerBar_isInfix_row (closed : Bool) (hne : cells ≠ []) :
    headerBar <:+: row headerBar closed cells := by
  obtain ⟨c, cs, rfl⟩ := List.exists_cons_of_ne_nil hne
  refine (List.IsPrefix.isInfix ?_)
  simp [row]

/-- A header row is written with single bars and followed by one column for each cell. -/
lemma writeTableHeaders_row (hne : cells ≠ []) (hcells : ∀ c ∈ cells, c ≠ [])
    (hb : ∀ c ∈ cells, '|' ∉ c) (hn : ∀ c ∈ cells, '\n' ∉ c) :
    writeTableHeaders (row headerBar closed cells) =
      Text.unlines [row "|".toList closed cells,
        (List.replicate cells.length "|---".toList).flatten ++ "|".toList] := by
  have hlines : Text.lines (row headerBar closed cells) = [row headerBar closed cells] :=
    Text.lines_eq_singleton (not_mem_row (by decide) hn)
  have hbars : singleBars (row headerBar closed cells) = row "|".toList closed cells := by
    rw [row_eq, row_eq]
    exact singleBars_flatMap (not_mem_closedCells hb)
  have hcols : ((headerColumns (row headerBar closed cells) : Int) - 1).toNat = cells.length := by
    rw [headerColumns_row hne hcells hb]
    omega
  rw [writeTableHeaders, hlines, List.flatMap_singleton,
    tableLine_of_isInfix (headerBar_isInfix_row closed hne), hbars, separatorRow, hcols]

/-- A line in which no two bars stand side by side stays as it is. -/
lemma writeTableHeaders_of_apart (hn : '\n' ∉ s) (h : Apart '|' s) : writeTableHeaders s = s := by
  have hbar : ¬ headerBar <:+: s := Apart.iff_not_isInfix.1 h
  rw [writeTableHeaders, Text.lines_eq_singleton hn, List.flatMap_singleton,
    tableLine_of_not_isInfix hbar]
  exact Text.unlines_singleton s

end Markup

end Wikidown
