import Mathlib.Data.List.Induction
import Wikidown.Markup.Rule
import Wikidown.Proofs.Reading

/-!
# Lines and breaks

Equations for the line-wise functions: how a text is put together from its lines (`unlines_lines`),
what a class of characters without breaks sees of it (`filter_unlines`, `filter_unifyBreaks`), and
the same for the two rules that work on lines, quote blocks and table headers.
-/

namespace Wikidown

namespace Text

@[simp] lemma unlines_singleton (l : Text) : unlines [l] = l := by
  simp [unlines]

lemma unlines_cons {l : Text} {ls : List Text} (h : ls ≠ []) :
    unlines (l :: ls) = l ++ '\n' :: unlines ls := by
  simp [unlines, List.intercalate_cons_of_ne_nil h]

lemma unlines_append {ks ls : List Text} (hk : ks ≠ []) (hl : ls ≠ []) :
    unlines (ks ++ ls) = unlines ks ++ '\n' :: unlines ls := by
  induction ks with
  | nil => exact absurd rfl hk
  | cons k ks ih =>
    cases ks with
    | nil => simp [unlines_cons hl]
    | cons k' ks =>
      have hks : k' :: ks ≠ [] := List.cons_ne_nil _ _
      rw [List.cons_append, unlines_cons (by simp), ih hks, unlines_cons hks]
      simp

lemma lines_ne_nil (s : Text) : lines s ≠ [] :=
  List.splitOn_ne_nil _ _

/-- The lines hold the whole text, with its breaks unified. -/
lemma unlines_lines (s : Text) : unlines (lines s) = unifyBreaks s :=
  List.intercalate_splitOn _

@[simp] lemma unifyBreaks_break (s : Text) :
    unifyBreaks ('\r' :: '\n' :: s) = '\n' :: unifyBreaks s :=
  rfl

lemma unifyBreaks_cons {c : Char} {s : Text} (h : c = '\r' → s.head? ≠ some '\n') :
    unifyBreaks (c :: s) = c :: unifyBreaks s := by
  rw [unifyBreaks]
  rintro t rfl rfl
  simp at h

lemma unifyBreaks_eq_self {s : Text} (h : '\r' ∉ s) : unifyBreaks s = s := by
  induction s with
  | nil => rfl
  | cons c s ih =>
    obtain ⟨hc, hs⟩ : '\r' ≠ c ∧ '\r' ∉ s := by simpa using h
    rw [unifyBreaks_cons fun e => absurd e.symm hc, ih hs]

lemma unifyBreaks_append_break {a : Text} (h : a.getLast? ≠ some '\r') (b : Text) :
    unifyBreaks (a ++ '\n' :: b) = unifyBreaks a ++ '\n' :: unifyBreaks b := by
  induction a using unifyBreaks.induct with
  | case1 => rfl
  | case2 a ih =>
    have ha : a.getLast? ≠ some '\r' := fun e => h (by simp [List.getLast?_cons, e])
    simp [ih ha]
  | case3 c a hbreak ih =>
    have ha : a.getLast? ≠ some '\r' := fun e => h (by simp [List.getLast?_cons, e])
    have hc : c = '\r' → a.head? ≠ some '\n' := by
      rintro rfl e
      obtain ⟨t, rfl⟩ := List.head?_eq_some_iff.1 e
      exact hbreak t rfl rfl
    have hc' : c = '\r' → (a ++ '\n' :: b).head? ≠ some '\n' := by
      rintro rfl e
      cases a with
      | nil => exact h rfl
      | cons d a => exact hc rfl (by simpa using e)
    rw [List.cons_append, unifyBreaks_cons hc', ih ha, unifyBreaks_cons hc]
    rfl

lemma lines_eq_singleton {s : Text} (h : '\n' ∉ s) : lines s = [s] := by
  have hunify : unifyBreaks s = s := by
    induction s using unifyBreaks.induct with
    | case1 => rfl
    | case2 s ih => simp at h
    | case3 c s hbreak ih =>
      obtain ⟨hc, hs⟩ : '\n' ≠ c ∧ '\n' ∉ s := by simpa using h
      rw [unifyBreaks_cons (fun _ e => hs (List.mem_of_head? e)), ih hs]
  rw [lines, hunify, List.splitOn_eq_singleton h]

/-- A line feed ends a line, and a new one begins behind it. -/
lemma lines_append_break {a : Text} (h : a.getLast? ≠ some '\r') (b : Text) :
    lines (a ++ '\n' :: b) = lines a ++ lines b := by
  rw [lines, unifyBreaks_append_break h, List.splitOn_append_cons_self]
  rfl

/-- Unified breaks differ from the breaks of the text in carriage returns only. -/
lemma filter_unifyBreaks {p : Char → Bool} (hr : p '\r' = false) (s : Text) :
    (unifyBreaks s).filter p = s.filter p := by
  induction s using unifyBreaks.induct with
  | case1 => rfl
  | case2 s ih => simp [List.filter_cons, hr, ih]
  | case3 c s h ih =>
    rw [unifyBreaks_cons, List.filter_cons, ih, List.filter_cons]
    rintro rfl hs
    obtain ⟨t, rfl⟩ := List.head?_eq_some_iff.1 hs
    exact h t rfl rfl

lemma filter_unlines {p : Char → Bool} (hn : p '\n' = false) (ls : List Text) :
    (unlines ls).filter p = ls.flatMap fun l => l.filter p := by
  induction ls with
  | nil => rfl
  | cons l ls ih =>
    cases ls with
    | nil => simp
    | cons k ls =>
      rw [unlines_cons (by simp), List.filter_append, List.filter_cons, hn, ih]
      rfl

/-- Induction along the lines of a text. -/
@[elab_as_elim]
lemma lineInduction {motive : Text → Prop} (line : ∀ l, '\n' ∉ l → motive l)
    (step : ∀ l s, '\n' ∉ l → motive s → motive (l ++ '\n' :: s)) (s : Text) : motive s := by
  induction hn : s.length using Nat.strongRecOn generalizing s with
  | ind n ih =>
    by_cases hs : '\n' ∈ s
    · obtain ⟨l, t, rfl, hl⟩ := List.eq_append_cons_of_mem hs
      refine step l t hl (ih t.length ?_ t rfl)
      simp only [List.length_append, List.length_cons] at hn
      omega
    · exact line s hs

lemma not_mem_of_mem_splitOn {l s : Text} (h : l ∈ s.splitOn '\n') : '\n' ∉ l := by
  induction s using lineInduction with
  | line k hk =>
    rw [List.splitOn_eq_singleton hk, List.mem_singleton] at h
    exact h ▸ hk
  | step k s hk ih =>
    rw [List.splitOn_append_cons_self_of_not_mem hk, List.mem_cons] at h
    exact h.elim (fun e => e ▸ hk) ih

/-- Two parts of a text share the line that lies between them, whatever is put there. -/
lemma exists_splitOn_append (p q : Text) : ∃ ks a b ls, ∀ u : Text, '\n' ∉ u →
    (p ++ (u ++ q)).splitOn '\n' = ks ++ (a ++ (u ++ b)) :: ls := by
  induction p using lineInduction with
  | line p hp =>
    by_cases hq : '\n' ∈ q
    · obtain ⟨b, r, rfl, hb⟩ := List.eq_append_cons_of_mem hq
      refine ⟨[], p, b, r.splitOn '\n', fun u hu => ?_⟩
      have hline : '\n' ∉ p ++ (u ++ b) := by simp [hp, hu, hb]
      have key := List.splitOn_append_cons_self_of_not_mem hline r
      simpa using key
    · refine ⟨[], p, q, [], fun u hu => ?_⟩
      exact List.splitOn_eq_singleton (by simp [hp, hu, hq])
  | step k p hk ih =>
    obtain ⟨ks, a, b, ls, h⟩ := ih
    refine ⟨k :: ks, a, b, ls, fun u hu => ?_⟩
    rw [List.append_assoc, List.cons_append, List.splitOn_append_cons_self_of_not_mem hk, h u hu]
    rfl

/-- What a class of characters without line feeds sees of a text is what it sees of the lines. -/
lemma filter_lines {p : Char → Bool} (hn : p '\n' = false) (s : Text) :
    ((lines s).flatMap fun l => l.filter p) = (unifyBreaks s).filter p := by
  rw [← filter_unlines hn, unlines_lines]

end Text

namespace Markup

open Pattern Text

variable {p : Char → Bool}

/-- The rest of a text of one line is the text. -/
lemma takeWhile_inLine {s : Text} (h : '\n' ∉ s) :
    s.takeWhile inLine = s ∧ s.dropWhile inLine = [] := by
  have hline : ∀ x ∈ s, inLine x = true := by
    intro x hx
    simpa [inLine] using ne_of_mem_of_not_mem hx h
  have htake := takeWhile_append_of_stop (v := []) hline rfl
  have hdrop := dropWhile_append_of_stop (v := []) hline rfl
  rw [List.append_nil] at htake hdrop
  exact ⟨htake, hdrop⟩

lemma filter_dropLeadingBreak (hr : p '\r' = false) (hn : p '\n' = false) (s : Text) :
    (dropLeadingBreak s).filter p = s.filter p := by
  fun_cases dropLeadingBreak s <;> simp [hr, hn]

lemma filter_dropTrailingBreak (hr : p '\r' = false) (hn : p '\n' = false) (s : Text) :
    (dropTrailingBreak s).filter p = s.filter p := by
  have hs : s.filter p = (s.reverse.filter p).reverse := by simp [List.filter_reverse]
  rw [dropTrailingBreak, hs]
  split
  · next r h => simp [h, hr, hn]
  · next r _ h => simp [h, hn]
  · simp [List.filter_reverse]

lemma dropTrailingBreak_crlf (s : Text) : dropTrailingBreak (s ++ ['\r', '\n']) = s := by
  simp [dropTrailingBreak]

lemma dropTrailingBreak_break {s : Text} (h : s.getLast? ≠ some '\r') :
    dropTrailingBreak (s ++ ['\n']) = s := by
  rw [dropTrailingBreak, List.reverse_concat]
  split
  · next r hr =>
    simp only [List.cons.injEq, true_and] at hr
    rw [← List.head?_reverse, hr] at h
    exact absurd rfl h
  · next r _ hr =>
    simp only [List.cons.injEq, true_and] at hr
    rw [← hr, List.reverse_reverse]
  · next _ hr => exact absurd rfl (hr _)

lemma dropTrailingBreak_eq_self {s : Text} (h : s.getLast? ≠ some '\n') :
    dropTrailingBreak s = s := by
  rw [← List.head?_reverse] at h
  rw [dropTrailingBreak]
  split
  · next r hr => exact absurd (by rw [hr]; rfl) h
  · next r _ hr => exact absurd (by rw [hr]; rfl) h
  · rfl

/-- The breaks that a quote may lose at its ends. -/
def endBreaks : List Text :=
  [[], "\n".toList, "\r\n".toList]

lemma exists_append_dropLeadingBreak (s : Text) :
    ∃ e ∈ endBreaks, s = e ++ dropLeadingBreak s := by
  fun_cases dropLeadingBreak s with
  | case1 s => exact ⟨"\n".toList, by decide, rfl⟩
  | case2 s => exact ⟨"\r\n".toList, by decide, rfl⟩
  | case3 => exact ⟨[], by decide, rfl⟩

lemma exists_dropTrailingBreak_append (s : Text) :
    ∃ e ∈ endBreaks, s = dropTrailingBreak s ++ e := by
  by_cases hs : s.getLast? = some '\n'
  · obtain ⟨t, rfl⟩ := List.getLast?_eq_some_iff.1 hs
    by_cases ht : t.getLast? = some '\r'
    · obtain ⟨u, rfl⟩ := List.getLast?_eq_some_iff.1 ht
      have hcrlf : u ++ ['\r'] ++ ['\n'] = u ++ ['\r', '\n'] := by simp
      rw [hcrlf, dropTrailingBreak_crlf]
      exact ⟨"\r\n".toList, by decide, rfl⟩
    · rw [dropTrailingBreak_break ht]
      exact ⟨"\n".toList, by decide, rfl⟩
  · rw [dropTrailingBreak_eq_self hs]
    exact ⟨[], by decide, (List.append_nil s).symm⟩

/-- The empty lines at the end hold nothing. -/
lemma flatMap_dropWhile_isEmpty {β : Type} {g : Text → List β} (hg : g [] = []) (ls : List Text) :
    (ls.reverse.dropWhile List.isEmpty).reverse.flatMap g = ls.flatMap g := by
  induction ls using List.reverseRecOn with
  | nil => rfl
  | append_singleton ls l ih =>
    rw [List.reverse_concat]
    cases l with
    | nil => simp [ih, hg]
    | cons c l => simp

lemma flatMap_dropEmptyTail {β : Type} {g : Text → List β} (hg : g [] = []) (ls : List Text) :
    (dropEmptyTail ls).flatMap g = ls.flatMap g := by
  cases ls with
  | nil => rfl
  | cons l ls => simp [dropEmptyTail, flatMap_dropWhile_isEmpty hg]

lemma dropEmptyTail_subset (ls : List Text) : dropEmptyTail ls ⊆ ls := by
  cases ls with
  | nil => exact List.Subset.refl _
  | cons l ls =>
    have htail : (ls.reverse.dropWhile List.isEmpty).reverse ⊆ ls := by
      intro k hk
      exact List.mem_reverse.1 ((List.dropWhile_suffix _).subset (List.mem_reverse.1 hk))
    exact List.cons_subset_cons l htail

/-- A quote is written with all characters of its lines. -/
lemma filter_renderQuote (hn : p '\n' = false) (hq : p '>' = false) (hb : p ' ' = false)
    (s : Text) :
    (renderQuote s).filter p =
      (unifyBreaks (dropTrailingBreak (dropLeadingBreak s))).filter p := by
  have hm : ∀ l : Text, (quoteMark ++ l).filter p = l.filter p := by
    intro l
    simp [quoteMark, hq, hb]
  rw [renderQuote, filter_unlines hn, List.flatMap_map]
  simp only [hm]
  rw [quoteLines, flatMap_dropEmptyTail rfl, filter_lines hn]

lemma tableLine_of_isInfix {k : Text} (h : headerBar <:+: k) :
    tableLine k = [singleBars k, separatorRow (headerColumns k)] :=
  if_pos ((Text.isSome_cut?_iff (by decide)).2 h)

lemma tableLine_of_not_isInfix {k : Text} (h : ¬ headerBar <:+: k) : tableLine k = [k] :=
  if_neg (mt (Text.isSome_cut?_iff (by decide)).1 h)

/-- A row is written with its cells, and the separating row holds none. -/
lemma filter_tableLine (hb : p '|' = false) (hd : p '-' = false) (l : Text) :
    ((tableLine l).flatMap fun k => k.filter p) = l.filter p := by
  have hbars : (singleBars l).filter p = l.filter p := by
    apply filter_replace
    intro b s m h
    rw [(read_marker_iff.1 h).2]
    simp [hb]
  have hrow : (separatorRow (headerColumns l)).filter p = [] := by
    simp [separatorRow, List.filter_flatten, hb, hd]
  rw [tableLine]
  split
  · simp [hbars, hrow]
  · simp

lemma tableLine_ne_nil (l : Text) : tableLine l ≠ [] := by
  rw [tableLine]
  split <;> simp

lemma flatMap_tableLine_ne_nil {ls : List Text} (h : ls ≠ []) : ls.flatMap tableLine ≠ [] := by
  cases ls with
  | nil => exact absurd rfl h
  | cons l ls => simp [tableLine_ne_nil]

/-- Tables are written line by line. -/
lemma writeTableHeaders_append_break {a : Text} (h : a.getLast? ≠ some '\r') (b : Text) :
    writeTableHeaders (a ++ '\n' :: b) = writeTableHeaders a ++ '\n' :: writeTableHeaders b := by
  rw [writeTableHeaders, lines_append_break h, List.flatMap_append,
    unlines_append (flatMap_tableLine_ne_nil (lines_ne_nil a))
      (flatMap_tableLine_ne_nil (lines_ne_nil b))]
  rfl

/-- A text without bars holds no header row. -/
lemma writeTableHeaders_eq_self {s : Text} (hb : '|' ∉ s) (hr : '\r' ∉ s) :
    writeTableHeaders s = s := by
  have hunify : unifyBreaks s = s := unifyBreaks_eq_self hr
  have hlines : ∀ l ∈ lines s, '|' ∉ l := by
    have key := filter_lines (p := (· == '|')) rfl s
    rw [hunify, filter_beq_eq_nil_iff.2 hb, List.flatMap_eq_nil_iff] at key
    exact fun l hl => filter_beq_eq_nil_iff.1 (key l hl)
  have htable : ∀ l ∈ lines s, tableLine l = [l] := fun l hl =>
    tableLine_of_not_isInfix fun h => hlines l hl (h.subset List.mem_cons_self)
  rw [writeTableHeaders, List.flatMap_congr htable, List.flatMap_singleton', unlines_lines, hunify]

/-- Tables are written with all characters of their lines. -/
lemma filter_writeTableHeaders (hn : p '\n' = false) (hb : p '|' = false) (hd : p '-' = false)
    (s : Text) : (writeTableHeaders s).filter p = (unifyBreaks s).filter p := by
  rw [writeTableHeaders, filter_unlines hn, List.flatMap_assoc]
  simp only [filter_tableLine hb hd]
  exact filter_lines hn s

end Markup

end Wikidown
