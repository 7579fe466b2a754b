import Wikidown.Proofs.Enclosed
import Wikidown.Proofs.QuoteLines

/-!
# A document that is one quote

A document that stands between two quote markers is written as quoted lines. The rules behind that
for quotes read and write their marks within lines (`rewordsLines_apply`), so the quote marks in
front of the lines stay. Only the rule for tables adds lines: the row below a header row gets no
quote mark. All lines of the document are quoted exactly if no double bar is left when the tables
have their turn (`convert_quote`).
-/

namespace Wikidown

namespace Text

variable {s k : Text}

/-- A line lacks at most a carriage return at its end. -/
lemma exists_mem_splitOn (h : k ∈ lines s) : ∃ l ∈ s.splitOn '\n', l = k ∨ l = k ++ ['\r'] := by
  induction s using lineInduction with
  | line s hs =>
    rw [lines_eq_singleton hs, List.mem_singleton] at h
    exact ⟨s, by simp [List.splitOn_eq_singleton hs], .inl h.symm⟩
  | step l s hl ih =>
    have hline : ∃ a, lines (l ++ '\n' :: s) = a :: lines s ∧ (l = a ∨ l = a ++ ['\r']) := by
      by_cases hr : l.getLast? = some '\r'
      · obtain ⟨a, rfl⟩ := List.getLast?_eq_some_iff.1 hr
        have ha : '\n' ∉ a := fun h => hl (List.mem_append_left _ h)
        refine ⟨a, ?_, .inr rfl⟩
        rw [List.append_assoc, List.singleton_append, lines_append_crlf, lines_eq_singleton ha,
          List.singleton_append]
      · refine ⟨l, ?_, .inl rfl⟩
        rw [lines_append_break hr, lines_eq_singleton hl, List.singleton_append]
    obtain ⟨a, hlines, ha⟩ := hline
    rw [hlines, List.mem_cons] at h
    rw [List.splitOn_append_cons_self_of_not_mem hl]
    rcases h with rfl | h
    · exact ⟨l, List.mem_cons_self, ha⟩
    · obtain ⟨l', hl', hk⟩ := ih h
      exact ⟨l', List.mem_cons_of_mem _ hl', hk⟩

end Text

/-- The lines of the second text are those of the first one, reworded. -/
def RewordsLines (W : Text → Text → Prop) (s t : Text) : Prop :=
  (∀ l ∈ t.splitOn '\n', ∃ k ∈ s.splitOn '\n', Reworded W k l) ∧
    ∀ k ∈ s.splitOn '\n', ∃ l ∈ t.splitOn '\n', Reworded W k l

namespace RewordsLines

variable {W : Text → Text → Prop} {s t t' : Text}

lemma refl (s : Text) : RewordsLines W s s :=
  ⟨fun l hl => ⟨l, hl, .refl⟩, fun k hk => ⟨k, hk, .refl⟩⟩

lemma trans (h : RewordsLines W s t) (h' : RewordsLines W t t') : RewordsLines W s t' := by
  constructor
  · intro l hl
    obtain ⟨k', hk', hkl⟩ := h'.1 l hl
    obtain ⟨k, hk, hkk⟩ := h.1 k' hk'
    exact ⟨k, hk, hkk.trans hkl⟩
  · intro k hk
    obtain ⟨k', hk', hkk⟩ := h.2 k hk
    obtain ⟨l, hl, hkl⟩ := h'.2 k' hk'
    exact ⟨l, hl, hkk.trans hkl⟩

/-- Two lists that differ in one place have related members if the two members there are. -/
lemma exists_rel_of_mem {R : Text → Text → Prop} (hrefl : ∀ l, R l l) {k l m : Text}
    {ks ls : List Text} (h : R k l) (hm : m ∈ ks ++ k :: ls) : ∃ n ∈ ks ++ l :: ls, R m n := by
  rcases List.mem_append.1 hm with hm | hm
  · exact ⟨m, List.mem_append_left _ hm, hrefl m⟩
  · rcases List.mem_cons.1 hm with rfl | hm
    · exact ⟨l, List.mem_append_right _ List.mem_cons_self, h⟩
    · exact ⟨m, List.mem_append_right _ (List.mem_cons_of_mem _ hm), hrefl m⟩

/-- Marks without line feeds are written within lines. -/
lemma of_reworded (hW : ∀ u v, W u v → '\n' ∉ u ∧ '\n' ∉ v) (h : Reworded W s t) :
    RewordsLines W s t := by
  refine h.rel refl trans fun p u v q hw => ?_
  obtain ⟨ks, a, b, ls, hsplit⟩ := Text.exists_splitOn_append p q
  have hline : Reworded W (a ++ (u ++ b)) (a ++ (v ++ b)) := Reworded.refl.step hw
  rw [RewordsLines, hsplit u (hW u v hw).1, hsplit v (hW u v hw).2]
  exact ⟨fun l hl => exists_rel_of_mem (R := fun l k => Reworded W k l) (fun _ => .refl) hline hl,
    fun k hk => exists_rel_of_mem (fun _ => .refl) hline hk⟩

end RewordsLines

/-- A text that holds none of the marks that are read stays as it is. -/
lemma Reworded.eq_self {W : Text → Text → Prop} {s t : Text} (h : Reworded W s t)
    (hs : ∀ u v, W u v → ¬ u <:+: s) : t = s := by
  induction h with
  | refl => rfl
  | @step p u v q _ hw ih => exact absurd ⟨p, q, by rw [← ih]; simp⟩ (hs u v hw)

open Pattern Markup

variable {o : Options} {r : Rule} {c s t u v k l : Text} {n : Int}

/-- Each line of the text begins with a quote mark. -/
def Quoted (s : Text) : Prop :=
  ∀ l ∈ s.splitOn '\n', quoteMark <+: l

instance (s : Text) : Decidable (Quoted s) :=
  inferInstanceAs (Decidable (∀ l ∈ s.splitOn '\n', quoteMark <+: l))

/-! ## The quote -/

lemma writeQuoteBlocks_enclosed (h : ¬ quoteMarker <:+: c) :
    writeQuoteBlocks (enclosed c) = renderQuote c := by
  have hcut : Text.cut? quoteMarker (c ++ (quoteMarker ++ [])) = some (c, []) :=
    Text.cut?_append_of_not_isInfix (m := "quote\x7d".toList) (by decide) h
  have hmarker : "\x7bquote\x7d".toList = quoteMarker := rfl
  have hread : quoteBlock.read none (quoteMarker ++ c ++ quoteMarker ++ []) =
      some ⟨quoteMarker ++ c ++ quoteMarker, c, []⟩ := by
    simp only [quoteBlock, hmarker, List.append_assoc, Text.after?_append, Option.bind_some, hcut,
      Option.map_some]
  have key := (rewrites_span (f := renderQuote) hread rfl).replace_eq
  rwa [List.append_assoc] at key

lemma splitOn_renderQuote (c : Text) :
    (renderQuote c).splitOn '\n' = (quoteLines c).map fun l => quoteMark ++ l := by
  refine List.splitOn_intercalate _ (fun k hk => ?_) ?_
  · obtain ⟨l, hl, rfl⟩ := List.mem_map.1 hk
    have hline : '\n' ∉ l := Text.not_mem_of_mem_splitOn (dropEmptyTail_subset _ hl)
    simp [quoteMark, hline]
  · obtain ⟨k, ks, hks⟩ := List.exists_cons_of_ne_nil
      (Text.lines_ne_nil (dropTrailingBreak (dropLeadingBreak c)))
    simp [quoteLines, hks, dropEmptyTail]

lemma quoted_renderQuote (c : Text) : Quoted (renderQuote c) := by
  intro k hk
  rw [splitOn_renderQuote] at hk
  obtain ⟨l, -, rfl⟩ := List.mem_map.1 hk
  exact List.prefix_append _ _

/-! ## The rules that keep to lines -/

/-- The rules behind that for quotes, but that for tables. -/
def inlineRules : List Rule :=
  [.image, .link, .noFormat, .color]

lemma Rule.Writes.inline (hr : r ∈ inlineRules) (h : r.Writes u v) :
    ('\n' ∉ u ∧ '\n' ∉ v) ∧ Text.ClearAfter quoteMark u := by
  have key : ∀ r ∈ inlineRules, r ∉ [Rule.list, .codeBlock, .quoteBlock, .tableHeader] ∧
      ∀ m ∈ r.rewordings, ('\n' ∉ m.1 ∧ '\n' ∉ m.2) ∧ Text.ClearAfter quoteMark m.1 := by decide
  exact (key r hr).2 _ (h.mem_rewordings (key r hr).1)

lemma rewordsLines_apply (o : Options) (hr : r ∈ inlineRules) (s : Text) :
    RewordsLines r.Writes s (r.apply o s) := by
  have htable : r ≠ .tableHeader := by
    rintro rfl
    simp [inlineRules] at hr
  exact .of_reworded (fun _ _ h => (h.inline hr).1) (Rule.reworded_apply o htable s)

/-- A quote mark in front of a line stays. -/
lemma prefix_of_reworded (hr : r ∈ inlineRules) (h : Reworded r.Writes k l)
    (hk : quoteMark <+: k) : quoteMark <+: l := by
  obtain ⟨k, rfl⟩ := hk
  obtain ⟨l, rfl, -⟩ := h.keeps_front fun _ _ hw => (hw.inline hr).2
  exact List.prefix_append _ _

lemma Quoted.apply (o : Options) (hr : r ∈ inlineRules) (h : Quoted s) : Quoted (r.apply o s) := by
  intro l hl
  obtain ⟨k, hk, hkl⟩ := (rewordsLines_apply o hr s).1 l hl
  exact prefix_of_reworded hr hkl (h k hk)

/-! ## Tables in the quote -/

/-- Each line of the text begins with a quote mark or is the row below a header row. -/
def QuotedTables (s : Text) : Prop :=
  ∀ l ∈ s.splitOn '\n', quoteMark <+: l ∨ ∃ n, l = separatorRow n

lemma Quoted.prefix_of_mem_lines (h : Quoted s) (hk : k ∈ Text.lines s) : quoteMark <+: k := by
  obtain ⟨l, hl, rfl | rfl⟩ := Text.exists_mem_splitOn hk
  · exact h _ hl
  · -- the carriage return in front of the line feed is no part of the quote mark
    refine (Text.prefix_append_iff fun q hq hqr => ?_).1 (h _ hl)
    by_contra hne
    obtain ⟨x, q, rfl⟩ := List.exists_cons_of_ne_nil hne
    obtain ⟨rfl, -⟩ := List.cons_prefix_cons.1 hqr
    have hmem : '\r' ∈ quoteMark := hq ▸ List.mem_append_right _ List.mem_cons_self
    exact absurd hmem (by decide)

/-- The double bars of a text stand in its lines. -/
lemma headerBar_isInfix_iff : headerBar <:+: s ↔ ∃ k ∈ Text.lines s, headerBar <:+: k := by
  have hne : headerBar ≠ [] := by decide
  have hmem : ∀ t : Text, headerBar ∈ Text.found [headerBar] t ↔ headerBar <:+: t :=
    fun t => Text.mem_found_iff List.mem_cons_self hne
  rw [← hmem, ← Rule.found_lines (by decide) (by decide), List.mem_flatMap]
  simp only [hmem]

lemma splitOn_writeTableHeaders (s : Text) :
    (writeTableHeaders s).splitOn '\n' = (Text.lines s).flatMap tableLine := by
  refine List.splitOn_intercalate _ (fun l hl => ?_)
    (flatMap_tableLine_ne_nil (Text.lines_ne_nil s))
  obtain ⟨k, hk, hl⟩ := List.mem_flatMap.1 hl
  have key := filter_tableLine (p := (· == '\n')) rfl rfl k
  rw [Text.filter_beq_eq_nil_iff.2 (Text.not_mem_of_mem_splitOn hk), List.flatMap_eq_nil_iff] at key
  exact Text.filter_beq_eq_nil_iff.1 (key l hl)

lemma Quoted.quotedTables_writeTableHeaders (h : Quoted s) :
    QuotedTables (writeTableHeaders s) := by
  intro l hl
  rw [splitOn_writeTableHeaders] at hl
  obtain ⟨k, hk, hl⟩ := List.mem_flatMap.1 hl
  have hquoted := h.prefix_of_mem_lines hk
  by_cases hbar : headerBar <:+: k
  · rw [tableLine_of_isInfix hbar] at hl
    rcases List.mem_cons.1 hl with rfl | hl
    · obtain ⟨k, rfl⟩ := hquoted
      obtain ⟨l, hl, -⟩ := (Rule.reworded_singleBars (quoteMark ++ k)).keeps_front
        fun u v hw => by
          have key : ∀ m ∈ Rule.tableHeader.rewordings, Text.ClearAfter quoteMark m.1 := by decide
          cases hw with
          | fixed hm => exact key _ hm
          | row => decide
      rw [hl]
      exact .inl (List.prefix_append _ _)
    · exact .inr ⟨_, List.mem_singleton.1 hl⟩
  · rw [tableLine_of_not_isInfix hbar, List.mem_singleton] at hl
    exact .inl (hl ▸ hquoted)

lemma Quoted.writeTableHeaders (h : Quoted s) (hbar : ¬ headerBar <:+: s) :
    Quoted (writeTableHeaders s) := by
  intro l hl
  rw [splitOn_writeTableHeaders] at hl
  obtain ⟨k, hk, hl⟩ := List.mem_flatMap.1 hl
  have hk' : ¬ headerBar <:+: k := fun hin => hbar (headerBar_isInfix_iff.2 ⟨k, hk, hin⟩)
  rw [tableLine_of_not_isInfix hk', List.mem_singleton] at hl
  exact hl ▸ h.prefix_of_mem_lines hk

lemma exists_row_of_isInfix (h : headerBar <:+: s) :
    ∃ n, separatorRow n ∈ (writeTableHeaders s).splitOn '\n' := by
  obtain ⟨k, hk, hin⟩ := headerBar_isInfix_iff.1 h
  refine ⟨headerColumns k, ?_⟩
  rw [splitOn_writeTableHeaders, List.mem_flatMap]
  exact ⟨k, hk, by simp [tableLine_of_isInfix hin]⟩

/-- The rules behind that for tables. -/
def rulesAfterTables : List Rule :=
  [.noFormat, .color]

lemma mem_inlineRules (hr : r ∈ rulesAfterTables) : r ∈ inlineRules := by
  have key : rulesAfterTables ⊆ inlineRules := by decide
  exact key hr

/-- The row below a header row holds no braces. -/
lemma eq_row_of_reworded (hr : r ∈ rulesAfterTables) (h : Reworded r.Writes (separatorRow n) l) :
    l = separatorRow n := by
  refine h.eq_self fun u v hw hin => ?_
  have key : ∀ r ∈ rulesAfterTables, r ∉ [Rule.list, .codeBlock, .quoteBlock, .tableHeader] ∧
      ∀ m ∈ r.rewordings, m.1.any (!Rule.tableHeader.markup.toList.contains ·) = true := by decide
  obtain ⟨x, hx, hout⟩ := List.any_eq_true.1 ((key r hr).2 _ (hw.mem_rewordings (key r hr).1))
  have hrow : x ∈ Rule.tableHeader.markup.toList := Rule.separatorRow_subset n (hin.subset hx)
  simp [hrow] at hout

lemma QuotedTables.apply (o : Options) (hr : r ∈ rulesAfterTables) (h : QuotedTables s) :
    QuotedTables (r.apply o s) := by
  intro l hl
  obtain ⟨k, hk, hkl⟩ := (rewordsLines_apply o (mem_inlineRules hr) s).1 l hl
  rcases h k hk with hquoted | ⟨n, rfl⟩
  · exact .inl (prefix_of_reworded (mem_inlineRules hr) hkl hquoted)
  · exact .inr ⟨n, eq_row_of_reworded hr hkl⟩

lemma mem_row_apply (o : Options) (hr : r ∈ rulesAfterTables)
    (h : separatorRow n ∈ s.splitOn '\n') : separatorRow n ∈ (r.apply o s).splitOn '\n' := by
  obtain ⟨l, hl, hkl⟩ := (rewordsLines_apply o (mem_inlineRules hr) s).2 _ h
  exact eq_row_of_reworded hr hkl ▸ hl

lemma not_prefix_row (n : Int) : ¬ quoteMark <+: separatorRow n := by
  intro h
  have hmem : '>' ∈ Rule.tableHeader.markup.toList :=
    Rule.separatorRow_subset n (h.subset List.mem_cons_self)
  exact absurd hmem (by decide)

/-! ## The whole conversion -/

/-- When the tables have their turn, the quote is written, and it holds no double bar that it did
not hold at first. -/
lemma applyAll_quoted (o : Options) (h : ¬ quoteMarker <:+: c) :
    Quoted (Rule.applyAll o (Rule.before .tableHeader) (enclosed c)) ∧
      (headerBar <:+: Rule.applyAll o (Rule.before .tableHeader) (enclosed c) →
        headerBar <:+: c) := by
  obtain ⟨d, hd, hwords⟩ := applyAll_enclosed o c
  have hmarker : ¬ quoteMarker <:+: d := mt (hwords _ (by decide)) h
  have hstages : Rule.applyAll o (Rule.before .tableHeader) (enclosed c) =
      writeLinks (writeImages (writeQuoteBlocks
        (Rule.applyAll o (Rule.before .quoteBlock) (enclosed c)))) := rfl
  rw [hstages, hd, writeQuoteBlocks_enclosed hmarker]
  have himage : Quoted (writeImages (renderQuote d)) :=
    (quoted_renderQuote d).apply o (r := .image) (by decide)
  refine ⟨himage.apply o (r := .link) (by decide), fun hbar => hwords _ (by decide) ?_⟩
  have hne : headerBar ≠ [] := by decide
  -- a link may take a double bar away, and neither links nor images bring one about
  have hlinks : (Text.found [headerBar] (writeLinks (writeImages (renderQuote d)))).Sublist
      (Text.found [headerBar] (writeImages (renderQuote d))) := by
    have key : ∀ m ∈ Rule.link.rewordings, Text.foreign [headerBar] m.2 = true := by decide
    exact (Rule.reworded_apply o (r := .link) (by decide) _).found_sublist
      fun _ _ hw => key _ (hw.mem_rewordings (by decide))
  have himages : Text.found [headerBar] (writeImages (renderQuote d)) =
      Text.found [headerBar] d :=
    (Rule.found_apply (r := .image) (by decide) o _).trans
      (Rule.found_renderQuote (by decide) (by decide) (by decide) d)
  rw [← Text.mem_found_iff List.mem_cons_self hne] at hbar ⊢
  exact himages ▸ hlinks.subset hbar

/-- A document that is one quote is written in lines that begin with a quote mark, apart from the
rows below header rows. All lines do exactly if no double bar is left when the tables have their
turn, so in any case if the content of the quote holds no double bar. -/
theorem convert_quote (o : Options) (c : Text) (h : ¬ quoteMarker <:+: c) :
    QuotedTables (convert o (enclosed c)) ∧
      (Quoted (convert o (enclosed c)) ↔
        ¬ headerBar <:+: Rule.applyAll o (Rule.before .tableHeader) (enclosed c)) ∧
      (¬ headerBar <:+: c → Quoted (convert o (enclosed c))) := by
  obtain ⟨hquoted, hbars⟩ := applyAll_quoted o h
  have hconvert : convert o (enclosed c) =
      Rule.color.apply o (Rule.noFormat.apply o (writeTableHeaders
        (Rule.applyAll o (Rule.before .tableHeader) (enclosed c)))) := rfl
  have htables := hquoted.quotedTables_writeTableHeaders
  have hall : ¬ headerBar <:+: Rule.applyAll o (Rule.before .tableHeader) (enclosed c) →
      Quoted (convert o (enclosed c)) := by
    intro hno
    rw [hconvert]
    exact ((hquoted.writeTableHeaders hno).apply o (by decide)).apply o (by decide)
  refine ⟨?_, ⟨fun hq hin => ?_, hall⟩, fun hno => hall (mt hbars hno)⟩
  · rw [hconvert]
    exact (htables.apply o (by decide)).apply o (by decide)
  · -- the row below the header row is still there at the end
    obtain ⟨n, hn⟩ := exists_row_of_isInfix hin
    rw [hconvert] at hq
    exact not_prefix_row n (hq _ (mem_row_apply o (by decide) (mem_row_apply o (by decide) hn)))

/-- A list, a link and a colour in a quote. -/
theorem convert_quote_list :
    Quoted (convert ⟨true⟩
        (enclosed "\n* a [b|c]\n\n\x7bcolor:red\x7dd\ne\x7bcolor\x7d\n".toList)) ∧
      convert ⟨true⟩
        (enclosed "\n* a [b|c]\n\n\x7bcolor:red\x7dd\ne\x7bcolor\x7d\n".toList) =
          ">   - a [b](c)\n> \n> <span style=\"color:red\">d\n> e</span>".toList :=
  ⟨(convert_quote ⟨true⟩ _ (by decide)).2.2 (by decide), by decide +kernel⟩

/-- The row below the header row of a quoted table gets no quote mark. -/
theorem convert_quote_table :
    ¬ quoteMarker <:+: "||a||b||".toList ∧
      convert ⟨false⟩ (enclosed "||a||b||".toList) = "> |a|b|\n|---|---|".toList ∧
      ¬ Quoted (convert ⟨false⟩ (enclosed "||a||b||".toList)) :=
  ⟨by decide, by decide +kernel, by decide +kernel⟩

end Wikidown
