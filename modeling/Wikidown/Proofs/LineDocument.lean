import Wikidown.Proofs.HeaderRows
import Wikidown.Proofs.ItemRuns

/-!
# Lines and their conversion

The kinds of lines: plain and quoted lines, headers, list items, and the header and body rows of
tables. One rule writes a line of a kind, and the rules before and after it find nothing
(`convert_of_rule`): what it wrote holds hashes, a dash or bars, which are marks for rules that come
earlier, or for one that needs two of them.
-/

namespace Wikidown

open Markup Pattern

/-- A plain text of one line. -/
structure PlainLine (c : Text) : Prop where
  plain : Plain c
  line : '\n' ∉ c

instance (c : Text) : Decidable (PlainLine c) :=
  decidable_of_iff (Plain c ∧ '\n' ∉ c) ⟨fun h => ⟨h.1, h.2⟩, fun h => ⟨h.plain, h.line⟩⟩

/-- A list run: marks that are stars alone, or none of which is a star. -/
def IsRun (run : Text) : Prop :=
  run ≠ [] ∧ ((∀ x ∈ run, x = '*') ∨ ∀ x ∈ run, x ∈ ['#', '+', '-'])

instance (run : Text) : Decidable (IsRun run) :=
  decidable_of_iff
    (run ≠ [] ∧ (run.all (· == '*') = true ∨ run.all (['#', '+', '-'].contains ·) = true))
    (by simp [IsRun])

/-- The kinds of lines. -/
inductive Line
  | plain (c : Text)
  | quoted (c : Text)
  | header (level : Nat) (c : Text)
  | item (run c : Text)
  | headerRow (closed : Bool) (cells : List Text)
  | bodyRow (cells : List Text)
deriving DecidableEq, Repr

namespace Line

/-- The line in the source. -/
def source : Line → Text
  | plain c => c
  | quoted c => 'b' :: 'q' :: '.' :: c
  | header n c => 'h' :: n.digitChar :: '.' :: c
  | item run c => run ++ ' ' :: c
  | headerRow closed cells => row ['|', '|'] closed cells
  | bodyRow cells => row ['|'] true cells

/-- What is written for the line: a header row is followed by the row that separates it from the
body. -/
def written : Line → List Text
  | plain c => [c]
  | quoted c => ['>' :: ' ' :: c]
  | header n c => [List.replicate (n + 1) '#' ++ c]
  | item run c =>
    [List.replicate (4 * (run.length - 1) + 2) ' ' ++
      (if run.getLast? = some '#' then ['1', '.'] else ['-']) ++ ' ' :: c]
  | headerRow closed cells =>
    [row ['|'] closed cells, (List.replicate cells.length ['|', '-', '-', '-']).flatten ++ ['|']]
  | bodyRow cells => [row ['|'] true cells]

/-- The contents are plain, the cells are not empty, and a header row has cells. -/
def Valid : Line → Prop
  | plain c | quoted c => PlainLine c
  | header n c => n ≤ 6 ∧ PlainLine c
  | item run c => IsRun run ∧ PlainLine c
  | headerRow _ cells => cells ≠ [] ∧ ∀ c ∈ cells, c ≠ [] ∧ PlainLine c
  | bodyRow cells => ∀ c ∈ cells, c ≠ [] ∧ PlainLine c

instance : DecidablePred Valid
  | plain c | quoted c => inferInstanceAs (Decidable (PlainLine c))
  | header n c => inferInstanceAs (Decidable (n ≤ 6 ∧ PlainLine c))
  | item run c => inferInstanceAs (Decidable (IsRun run ∧ PlainLine c))
  | headerRow _ cells =>
    inferInstanceAs (Decidable (cells ≠ [] ∧ ∀ c ∈ cells, c ≠ [] ∧ PlainLine c))
  | bodyRow cells => inferInstanceAs (Decidable (∀ c ∈ cells, c ≠ [] ∧ PlainLine c))

end Line

namespace PlainLine

variable {c : Text}

lemma opensLine_eq_false (h : PlainLine c) : opensLine c = false :=
  h.plain.unopened c (by simp [List.splitOn_eq_singleton h.line])

lemma opensItem_eq_false (h : PlainLine c) : opensItem c = false := by
  cases c with
  | nil => rfl
  | cons x c => exact opensItem_cons (h.plain.isListMark_eq_false List.mem_cons_self)

end PlainLine

section Conversion

variable {o : Options} {r : Rule} {after : List Rule} {s t c run : Text} {n : Nat}
  {cells : List Text} {closed : Bool}

/-- If the rules before and after one rule find nothing, the text is what this rule writes. -/
lemma convert_of_rule (before : List Rule) (h : Rule.all = before ++ r :: after)
    (hs : Rule.applyAll o before s = s) (hr : r.apply o s = t) (ht : Rule.applyAll o after t = t) :
    convert o s = t := by
  have hall : convert o s = Rule.applyAll o Rule.all s := rfl
  rw [hall, h, Rule.applyAll_append, hs, Rule.applyAll_cons, hr, ht]

/-- The rule for quoted lines does nothing to one line that begins otherwise. -/
lemma writeQuotedLines_eq_self (hn : '\n' ∉ s) (hb : s.head? ≠ some 'b') :
    writeQuotedLines s = s := by
  refine (takesLine_quotedLine.rewrites_of_read hn ?_).replace_eq
  cases s with
  | nil => rfl
  | cons x s =>
    have hx : x ∉ ['b'] := by simpa using hb
    exact opensWith_quotedLine.read_eq_none hx _ _

lemma writeQuotedLines_quoted (hc : '\n' ∉ c) :
    writeQuotedLines ('b' :: 'q' :: '.' :: c) = '>' :: ' ' :: c := by
  have hline : ∀ x ∈ c, inLine x = true := by
    intro x hx
    simpa [inLine] using ne_of_mem_of_not_mem hx hc
  have hread : quotedLine.read none ('b' :: 'q' :: '.' :: c ++ []) =
      some ⟨'b' :: 'q' :: '.' :: c, c, []⟩ := by
    rw [quotedLine, read_atLineStart_iff, read_between_iff]
    exact ⟨⟨rfl, by simp, hline, rfl⟩, .inl rfl⟩
  exact (rewrites_span hread rfl).replace_eq

lemma headerLevel?_digitChar (h : n ≤ 6) : headerLevel? n.digitChar = some n := by
  have key : ∀ n ≤ 6, headerLevel? n.digitChar = some n := by decide
  exact key n h

lemma writeHeaders_header (hn : n ≤ 6) (hc : '\n' ∉ c) :
    writeHeaders ('h' :: n.digitChar :: '.' :: c) = List.replicate (n + 1) '#' ++ c := by
  obtain ⟨htake, hdrop⟩ := takeWhile_inLine hc
  have hread : headerLine.read none ('h' :: n.digitChar :: '.' :: c ++ []) =
      some ⟨'h' :: n.digitChar :: '.' :: c, (n, c), []⟩ := by
    rw [List.append_nil, headerLine, read_atLineStart_iff]
    refine ⟨?_, .inl rfl⟩
    simp only [headerLevel?_digitChar hn, Option.map_some, htake, hdrop]
  exact (rewrites_span hread rfl).replace_eq

/-! ## One lemma for each kind of line -/

lemma convert_plain (hc : PlainLine c) : convert o c = c :=
  have hmarked : Marked [] c := hc.plain.marked
  have hall : convert o c = Rule.applyAll o Rule.all c := rfl
  hall.trans (Rule.applyAll_eq_self_of_line (by decide) hmarked hc.line hc.opensLine_eq_false
    hc.opensItem_eq_false)

lemma convert_quoted (hc : PlainLine c) :
    convert o ('b' :: 'q' :: '.' :: c) = '>' :: ' ' :: c := by
  have hmarked : Marked [] (['>', ' '] ++ c) := .append (.of_all (by decide)) hc.plain.marked
  have hline : '\n' ∉ '>' :: ' ' :: c := by simpa using hc.line
  refine convert_of_rule (r := .quotedLine) [] rfl rfl (writeQuotedLines_quoted hc.line) ?_
  exact Rule.applyAll_eq_self_of_line (by decide) hmarked hline
    (opensLine_cons (by decide) (by decide)) (opensItem_cons rfl)

lemma marked_header {ms : Text} (hn : n ≤ 6) (hc : Plain c) :
    Marked ms ('h' :: n.digitChar :: '.' :: c) := by
  have hmark : ∀ n ≤ 6, ['h', n.digitChar, '.'].all (!marks.contains ·) = true := by decide
  have hfront : Marked ms ['h', n.digitChar, '.'] := fun x hx hm => by
    simpa [hm] using List.all_eq_true.1 (hmark n hn) x hx
  exact hfront.append hc.marked

/-- The hashes of a header come too late to be read as a run. -/
lemma convert_header (hn : n ≤ 6) (hc : PlainLine c) :
    convert o ('h' :: n.digitChar :: '.' :: c) = List.replicate (n + 1) '#' ++ c := by
  have hdigit : ∀ n ≤ 6, '\n' ≠ n.digitChar := by decide
  have hline : '\n' ∉ 'h' :: n.digitChar :: '.' :: c := by
    simp [hdigit n hn, hc.line]
  have hitem : opensItem ('h' :: n.digitChar :: '.' :: c) = false := opensItem_cons rfl
  have hsource : Marked [] ('h' :: n.digitChar :: '.' :: c) := marked_header hn hc.plain
  have hwritten : Marked ['#'] (List.replicate (n + 1) '#' ++ c) := by
    refine .append (fun x hx _ => ?_) hc.plain.marked
    simp [List.eq_of_mem_replicate hx]
  refine convert_of_rule (r := .header) [.quotedLine, .strong, .list] rfl ?_
    (writeHeaders_header hn hc.line) (Rule.applyAll_eq_self_of_marked _ (by decide) hwritten)
  refine Rule.applyAll_eq_self fun r hr => ?_
  simp only [List.mem_cons, List.not_mem_nil, or_false] at hr
  rcases hr with rfl | rfl | rfl
  · exact writeQuotedLines_eq_self hline (by simp)
  · exact Rule.apply_eq_self_of_marked o rfl (by decide) hsource
  · exact writeLists_eq_self hline hitem

/-- The indent of a run: two columns, and four more for each mark behind the first. -/
lemma renderItem_eq (hne : run ≠ []) :
    renderItem run c = List.replicate (4 * (run.length - 1) + 2) ' ' ++
      (if run.getLast? = some '#' then ['1', '.'] else ['-']) ++ ' ' :: c := by
  have hpos : 0 < run.length := List.length_pos_iff.2 hne
  have hindent : (listIndent run.length).toNat = 4 * (run.length - 1) + 2 := by
    rw [listIndent]
    split <;> omega
  have hmarker : itemMarker run = if run.getLast? = some '#' then ['1', '.'] else ['-'] := rfl
  have hspace : " ".toList ++ c = ' ' :: c := rfl
  rw [renderItem, hindent, hmarker, List.append_assoc _ " ".toList c, hspace]

/-- In a run of stars alone no other mark follows a star, and in a run without stars none opens. -/
lemma not_starOpens (h : IsRun run) : ¬ StarOpens run c := by
  rintro ⟨u, x, v, rfl, hx, -⟩
  rcases h.2 with h | h
  · exact hx (h x (by simp))
  · exact absurd (h '*' (by simp)) (by decide)

lemma isListMark_of_run (h : IsRun run) : ∀ x ∈ run, isListMark x = true := by
  have hmarks : ∀ x ∈ ['#', '+', '-'], isListMark x = true := List.all_eq_true.1 (by decide)
  rcases h.2 with h | h
  · exact fun x hx => h x hx ▸ rfl
  · exact fun x hx => hmarks x (h x hx)

lemma not_mem_renderItem (hc : '\n' ∉ c) : '\n' ∉ renderItem run c := by
  rw [renderItem, itemMarker]
  split <;> simp [hc]

/-- A deletion needs two dashes, and the marker of an item brings one at most. -/
lemma count_renderItem (hc : '-' ∉ c) : (renderItem run c).count '-' < 2 := by
  rw [renderItem, itemMarker]
  split <;> simp [List.count_replicate, List.count_eq_zero_of_not_mem hc]

lemma marked_renderItem (hc : Plain c) : Marked ['-'] (renderItem run c) := by
  have hspace : ∀ n, Marked ['-'] (List.replicate n ' ') := fun n x hx hm => by
    rw [List.eq_of_mem_replicate hx] at hm
    exact absurd hm (by decide)
  have hmarker : Marked ['-'] (itemMarker run) := by
    rw [itemMarker]
    split <;> exact .of_all (by decide)
  exact (((hspace _).append hmarker).append (hspace 1)).append hc.marked

/-- The rules in front of the lists leave an item alone. -/
lemma applyAll_item (h : IsRun run) (hc : PlainLine c) :
    Rule.applyAll o [.quotedLine, .strong] (run ++ ' ' :: c) = run ++ ' ' :: c := by
  have hrun := isListMark_of_run h
  have hline : '\n' ∉ run ++ ' ' :: c := by
    simp only [List.mem_append, List.mem_cons, not_or]
    refine ⟨fun hx => ?_, by decide, hc.line⟩
    cases hrun _ hx
  have hhead : (run ++ ' ' :: c).head? ≠ some 'b' := by
    obtain ⟨x, run, rfl⟩ := List.exists_cons_of_ne_nil h.1
    rintro hx
    cases hx
    cases hrun 'b' List.mem_cons_self
  have hstrong : writeStrong (run ++ ' ' :: c) = run ++ ' ' :: c := by
    rw [writeStrong_item hrun hc.line (not_starOpens h)]
    have hmarked : Marked [] c := hc.plain.marked
    exact congrArg (run ++ ' ' :: ·)
      (Rule.apply_eq_self_of_marked (r := .strong) o rfl (by decide) hmarked)
  refine Rule.applyAll_eq_self fun r hr => ?_
  simp only [List.mem_cons, List.not_mem_nil, or_false] at hr
  rcases hr with rfl | rfl
  · exact writeQuotedLines_eq_self hline hhead
  · exact hstrong

/-- The rules behind the lists leave what is written for an item alone. -/
lemma applyAll_renderItem (hne : run ≠ []) (hc : PlainLine c) :
    Rule.applyAll o (Rule.all.drop 3) (renderItem run c) = renderItem run c := by
  have hfind : ∀ r ∈ Rule.all.drop 3, r ≠ .delete →
      (r.takesLine || r.overlooks ['-']) = true := by decide
  obtain ⟨t, ht⟩ : ∃ t, renderItem run c = ' ' :: t := ⟨_, renderItem_eq hne⟩
  refine Rule.applyAll_eq_self fun r hr => ?_
  by_cases hd : r = .delete
  · -- the one rule that looks for dashes
    subst hd
    exact writeDeletions_eq_self (count_renderItem (hc.plain.not_mem (by decide)))
  · refine Rule.apply_eq_self_of_marked_line o (hfind r hr hd) (marked_renderItem hc.plain)
      (not_mem_renderItem hc.line) ?_ ?_
    · rw [ht]
      exact opensLine_cons (by decide) (by decide)
    · rw [ht]
      exact opensItem_cons rfl

lemma convert_item (h : IsRun run) (hc : PlainLine c) :
    convert o (run ++ ' ' :: c) = renderItem run c :=
  convert_of_rule (r := .list) [.quotedLine, .strong] rfl (applyAll_item h hc)
    (writeLists_item h.1 (isListMark_of_run h) hc.line) (applyAll_renderItem h.1 hc)

section Rows

variable {m : Text}

lemma exists_row (h : cells ≠ [] ∨ closed = true) :
    ∃ t, row ('|' :: m) closed cells = '|' :: t := by
  cases cells with
  | nil =>
    obtain rfl : closed = true := by simpa using h
    exact ⟨m, rfl⟩
  | cons c cells => exact ⟨_, rfl⟩

variable (hcells : ∀ c ∈ cells, c ≠ [] ∧ PlainLine c)

include hcells

lemma marked_row {bar : Text} (hb : Marked ['|'] bar) : Marked ['|'] (row bar closed cells) := by
  intro x hx hm
  by_contra hbar
  exact not_mem_row (fun h => hbar (hb x h hm)) (fun c hc => (hcells c hc).2.plain.not_mem hm) hx

/-- The rules before and after the tables do nothing to a row. -/
lemma applyAll_row {rs : List Rule}
    (hrs : rs.all (fun r => r.takesLine || r.overlooks ['|']) = true)
    (hm : m = [] ∨ m = ['|']) (h : cells ≠ [] ∨ closed = true) :
    Rule.applyAll o rs (row ('|' :: m) closed cells) = row ('|' :: m) closed cells := by
  have hbar : Marked ['|'] ('|' :: m) ∧ '\n' ∉ '|' :: m := by
    rcases hm with rfl | rfl <;> exact ⟨.of_all (by decide), by decide⟩
  obtain ⟨t, ht⟩ := exists_row (m := m) h
  refine Rule.applyAll_eq_self_of_line hrs (marked_row hcells hbar.1)
    (not_mem_row hbar.2 fun c hc => (hcells c hc).2.line) ?_ ?_
  · rw [ht]
    exact opensLine_cons (by decide) (by decide)
  · rw [ht]
    exact opensItem_cons rfl

lemma convert_headerRow (hne : cells ≠ []) :
    convert o (row ['|', '|'] closed cells) = Text.unlines [row ['|'] closed cells,
      (List.replicate cells.length ['|', '-', '-', '-']).flatten ++ ['|']] := by
  have hsep : Marked ['|', '-'] ((List.replicate cells.length ['|', '-', '-', '-']).flatten) := by
    intro x hx _
    obtain ⟨l, hl, hxl⟩ := List.mem_flatten.1 hx
    rw [List.eq_of_mem_replicate hl] at hxl
    have hbars : ['|', '-', '-', '-'] ⊆ ['|', '-'] := by decide
    exact hbars hxl
  have hrow : Marked ['|', '-'] (row ['|'] closed cells) :=
    (marked_row hcells (.of_all (by decide))).mono (by decide)
  refine convert_of_rule (r := .tableHeader) (Rule.all.take 14) rfl
    (applyAll_row hcells (by decide) (.inr rfl) (.inl hne)) ?_ ?_ (o := o)
  · exact writeTableHeaders_row hne (fun c hc => (hcells c hc).1)
      (fun c hc => (hcells c hc).2.plain.not_mem (by decide)) fun c hc => (hcells c hc).2.line
  · rw [Text.unlines_cons (by simp), Text.unlines_singleton]
    have hbreak : Marked ['|', '-'] (['\n'] ++ ((List.replicate cells.length
        ['|', '-', '-', '-']).flatten ++ ['|'])) :=
      .append (.of_all (by decide)) (hsep.append (.of_all (by decide)))
    exact Rule.applyAll_eq_self_of_marked _ (by decide) (hrow.append hbreak)

/-- No two bars of a body row stand side by side, because no cell is empty. -/
lemma apart_row : Apart '|' (row ['|'] true cells) := by
  induction cells with
  | nil => exact .singleton '|'
  | cons c cells ih =>
    obtain ⟨⟨hne, hc⟩, hrest⟩ := List.forall_mem_cons.1 hcells
    have hbar : '|' ∉ c := hc.plain.not_mem (by decide)
    have hcell : Apart '|' (['|'] ++ c) := .append_of_not_mem_right hbar (.singleton '|')
    have hrow : row ['|'] true (c :: cells) = ['|'] ++ c ++ row ['|'] true cells := by
      simp [row]
    rw [hrow]
    refine Apart.append_iff.2 ⟨hcell, ih hrest, ?_⟩
    rintro ⟨hlast, -⟩
    rw [List.getLast?_append_of_ne_nil _ hne] at hlast
    exact hbar (List.mem_of_getLast? hlast)

lemma convert_bodyRow : convert o (row ['|'] true cells) = row ['|'] true cells := by
  refine convert_of_rule (r := .tableHeader) (Rule.all.take 14) rfl
    (applyAll_row hcells (by decide) (.inl rfl) (.inr rfl)) ?_
    (applyAll_row hcells (by decide) (.inl rfl) (.inr rfl)) (o := o)
  exact writeTableHeaders_of_apart
    (not_mem_row (by decide) fun c hc => (hcells c hc).2.line) (apart_row hcells)

end Rows

end Conversion

end Wikidown
