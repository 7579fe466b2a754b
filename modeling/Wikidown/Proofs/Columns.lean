import Wikidown.Proofs.HeaderRows

/-!
# Columns

A double bar at the end of a line closes the cell in front of it. The cuts of a line stay where they
are as double bars are put behind it, as long as the line does not end in a bar itself, which would be
taken for the first half of a double bar (`Text.splitAt_append_doubles`). So the columns of a header row
are its cells, however often the last one is closed (`Markup.headerColumns_closing`).
-/

namespace Wikidown

namespace Text

variable {m s t a r : Text} {x : Char} {k : Nat}

/-- Nothing that comes behind a text moves the nearest marker in it. -/
lemma cut?_append_right (h : cut? m s = some (a, r)) (t : Text) :
    cut? m (s ++ t) = some (a, r ++ t) := by
  induction s generalizing a with
  | nil =>
    rw [cut?] at h
    split_ifs at h with hm
    obtain ⟨rfl, rfl⟩ := Prod.mk.inj (Option.some.inj h)
    subst hm
    cases t <;> simp [cut?, after?]
  | cons c s ih =>
    rw [List.cons_append, cut?]
    rw [cut?] at h
    split at h
    · next r' hafter =>
      obtain ⟨rfl, rfl⟩ := Prod.mk.inj (Option.some.inj h)
      rw [← List.cons_append, after?_eq_some_iff.1 hafter, List.append_assoc, after?_append]
    · next hafter =>
      obtain ⟨⟨a', r'⟩, hcut, heq⟩ := Option.map_eq_some_iff.1 h
      obtain ⟨rfl, rfl⟩ := Prod.mk.inj heq
      have hlength : m.length ≤ (c :: s).length := by
        rw [cut?_eq_some hcut]
        simp only [List.length_cons, List.length_append]
        omega
      have hnone : after? m (c :: (s ++ t)) = none := by
        by_contra hsome
        obtain ⟨u, hu⟩ := Option.ne_none_iff_exists'.1 hsome
        rw [after?_eq_some_iff, ← List.cons_append] at hu
        obtain ⟨v, hv⟩ := List.prefix_of_prefix_length_le ⟨u, hu.symm⟩ (List.prefix_append _ _) hlength
        simp [← hv] at hafter
      rw [hnone, ih hcut]
      rfl

/-- A doubled marker behind a text is the first one, if the text holds none and does not end in half of
it. -/
lemma cut?_append_double (h : cut? [x, x] s = none) (hlast : s.getLast? ≠ some x) (t : Text) :
    cut? [x, x] (s ++ ([x, x] ++ t)) = some (s, t) := by
  induction s with
  | nil => simp [cut?, after?]
  | cons c s ih =>
    rw [cut?] at h
    split at h
    · exact absurd h (by simp)
    next hafter =>
    have hrest : s.getLast? ≠ some x := fun heq => hlast (by rw [List.getLast?_cons, heq]; rfl)
    have hnone : after? [x, x] (c :: (s ++ ([x, x] ++ t))) = none := by
      cases s with
      | nil =>
        have hc : x ≠ c := fun heq => hlast (by simp [heq])
        simp [after?, hc]
      | cons d s => simpa [after?] using hafter
    rw [List.cons_append, cut?, hnone, ih (by simpa using h) hrest]
    rfl

/-- Doubled markers behind a text cut off empty pieces, if the text does not end in half of one. -/
lemma splitAt_append_doubles (h : s.getLast? ≠ some x) (k : Nat) :
    splitAt [x, x] (s ++ (List.replicate k [x, x]).flatten) =
      splitAt [x, x] s ++ List.replicate k [] := by
  fun_induction splitAt [x, x] s with
  | case1 s hnil => exact absurd hnil (by simp)
  | case2 s _ hcut =>
    cases k with
    | zero => simpa using splitAt_of_cut?_eq_none hcut
    | succ k =>
      have hdoubles : (List.replicate k [x, x]).flatten =
          [] ++ (List.replicate k []).flatMap ([x, x] ++ ·) := by
        simp [List.flatMap_replicate]
      rw [List.replicate_succ, List.flatten_cons,
        splitAt_of_cut?_eq_some (by simp) (cut?_append_double hcut h _), hdoubles,
        splitAt_flatMap rfl List.not_mem_nil (by simp)]
      rfl
  | case3 s _ a r hcut _ ih =>
    have hr : r.getLast? ≠ some x := by
      intro hr
      rw [cut?_eq_some hcut, List.getLast?_append, hr] at h
      exact h rfl
    rw [splitAt_of_cut?_eq_some (by simp) (cut?_append_right hcut _), ih hr, List.cons_append]

end Text

namespace Markup

variable {line : Text} {cells : List Text}

/-- Some double bars side by side. -/
def headerBars (k : Nat) : Text :=
  (List.replicate k headerBar).flatten

/-- Double bars behind a line are no columns. -/
lemma headerColumns_append_bars (h : line.getLast? ≠ some '|') (k : Nat) :
    headerColumns (line ++ headerBars k) = headerColumns line := by
  have hsplit : Text.splitAt headerBar (line ++ headerBars k) =
      Text.splitAt headerBar line ++ List.replicate k [] := Text.splitAt_append_doubles h k
  have hempty : ∀ c ∈ List.replicate k ([] : Text), c.isEmpty = true := fun c hc => by
    rw [List.eq_of_mem_replicate hc, List.isEmpty_nil]
  rw [headerColumns, hsplit, List.reverse_append, List.reverse_replicate,
    List.dropWhile_append_of_pos hempty, headerColumns]

/-- The end of a header row that is not closed is the end of its last cell. -/
lemma getLast?_flatMap_bars (hne : cells ≠ []) (hcells : ∀ c ∈ cells, c ≠ [] ∧ '|' ∉ c) :
    (cells.flatMap (headerBar ++ ·)).getLast? ≠ some '|' := by
  obtain ⟨cs, c, rfl⟩ := List.eq_nil_or_concat cells |>.resolve_left hne
  obtain ⟨hc, hbar⟩ := hcells c (by simp)
  obtain ⟨x, hx⟩ := Option.ne_none_iff_exists'.1 (mt List.getLast?_eq_none_iff.1 hc)
  have hend : ((cs.concat c).flatMap (headerBar ++ ·)).getLast? = some x := by
    simp [List.getLast?_append, hx]
  rw [hend]
  rintro ⟨⟩
  exact hbar (List.mem_of_getLast? hx)

/-- A line that does not end in a bar may be closed by any number of double bars and has the same
columns; and a header row, closed or not, has one column for each cell behind the piece before the first
bar, which is how many columns the row below it shows. -/
theorem headerColumns_closing :
    (∀ (line : Text) (k : Nat), line.getLast? ≠ some '|' →
      headerColumns (line ++ headerBars k) = headerColumns line) ∧
    ∀ (cells : List Text) (k : Nat), cells ≠ [] → (∀ c ∈ cells, c ≠ [] ∧ '|' ∉ c) →
      headerColumns (cells.flatMap (headerBar ++ ·) ++ headerBars k) = cells.length + 1 ∧
      separatorRow (headerColumns (cells.flatMap (headerBar ++ ·) ++ headerBars k)) =
        (List.replicate cells.length "|---".toList).flatten ++ "|".toList := by
  refine ⟨fun line k h => headerColumns_append_bars h k, fun cells k hne hcells => ?_⟩
  have hcolumns : headerColumns (cells.flatMap (headerBar ++ ·) ++ headerBars k) =
      cells.length + 1 := by
    have hrow : headerColumns (row headerBar false cells) = cells.length + 1 :=
      headerColumns_row hne (fun c hc => (hcells c hc).1) fun c hc => (hcells c hc).2
    rw [headerColumns_append_bars (getLast?_flatMap_bars hne hcells)]
    simpa [row] using hrow
  refine ⟨hcolumns, ?_⟩
  have hcount : (((cells.length + 1 : Nat) : Int) - 1).toNat = cells.length := by omega
  rw [hcolumns, separatorRow, hcount]

/-- A line with three bars side by side, and a row with a blank in a cell. -/
theorem headerColumns_closing_sample :
    headerColumns ("||a|||b".toList ++ headerBars 3) = headerColumns "||a|||b".toList ∧
    headerColumns ("||a||b c".toList ++ headerBars 1) = 3 ∧
    separatorRow (headerColumns ("||a||b c".toList ++ headerBars 1)) = "|---|---|".toList :=
  ⟨headerColumns_closing.1 _ 3 (by decide),
    headerColumns_closing.2 ["a".toList, "b c".toList] 1 (by simp) (by decide)⟩

/-- A bar at the end of a line is the first half of the double bar that is put behind it. -/
example : headerColumns "a|".toList = 1 ∧ headerColumns ("a|".toList ++ headerBars 1) = 2 := by
  cbv

end Markup

end Wikidown
