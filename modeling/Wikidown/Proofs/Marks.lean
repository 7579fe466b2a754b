import Wikidown.Proofs.Openers
import Wikidown.Proofs.Words

/-!
# Marks and what is written for them

A rule writes marks of its own in place of the marks it reads, and keeps what stands between them.
`Rule.Writes` lists these pairs of marks for each rule, and `Reworded` is the relation between two
texts that writing some of them leads from one to the other. Each rule rewords its text
(`Rule.reworded_apply`; the table rule also writes rows at the end of a line, so for all rules the
line feed behind the text is part of the statement, `Rule.reworded_apply_break`). What becomes of
the words in a text then depends on the pairs of marks alone (`Reworded.found_eq`,
`Reworded.found_sublist`, `Reworded.leads`).
-/

namespace Wikidown

/-- Writing texts `v` in place of texts `u`, where `W u v`, leads from the first text to the
second. -/
inductive Reworded (W : Text → Text → Prop) (s : Text) : Text → Prop where
  | refl :
    Reworded W s s
  | step {p u v q} :
    Reworded W s (p ++ (u ++ q)) →
    W u v →
    Reworded W s (p ++ (v ++ q))

namespace Reworded

variable {W : Text → Text → Prop} {s s' t t' u v : Text}

lemma single (h : W u v) : Reworded W u v := by
  have hu : Reworded W u ([] ++ (u ++ [])) := by simpa using Reworded.refl
  simpa using hu.step h

lemma trans (h : Reworded W s t) (h' : Reworded W t t') : Reworded W s t' := by
  induction h' with
  | refl => exact h
  | step _ hw ih => exact ih.step hw

/-- Texts side by side may be reworded one after the other. -/
lemma append (h : Reworded W s s') (h' : Reworded W t t') : Reworded W (s ++ t) (s' ++ t') := by
  have left : Reworded W (s ++ t) (s' ++ t) := by
    induction h with
    | refl => exact .refl
    | @step p u v q _ hw ih =>
      have hsplit : p ++ (u ++ q) ++ t = p ++ (u ++ (q ++ t)) := by simp
      rw [hsplit] at ih
      simpa using ih.step hw
  induction h' with
  | refl => exact left
  | @step p u v q _ hw ih =>
    have hsplit : s' ++ (p ++ (u ++ q)) = (s' ++ p) ++ (u ++ q) := by simp
    rw [hsplit] at ih
    simpa using ih.step hw

/-- What holds between two texts whenever one mark is written for another holds along a
rewording. -/
lemma rel {R : Text → Text → Prop} (refl : ∀ s, R s s) (trans : ∀ {s t t'}, R s t → R t t' → R s t')
    (step : ∀ p u v q, W u v → R (p ++ (u ++ q)) (p ++ (v ++ q))) (h : Reworded W s t) : R s t := by
  induction h with
  | refl => exact refl s
  | step _ hw ih => exact trans ih (step _ _ _ _ hw)

/-! ## Words in reworded texts -/

variable {ws : List Text} {x : Char}

/-- Marks that take no part in a word bring no words about. -/
lemma found_sublist (hW : ∀ u v, W u v → Text.foreign ws v = true) (h : Reworded W s t) :
    (Text.found ws t).Sublist (Text.found ws s) := by
  refine rel (R := fun s t => (Text.found ws t).Sublist (Text.found ws s))
    (fun _ => List.Sublist.refl _) (fun h h' => h'.trans h) (fun p u v q hw => ?_) h
  rw [Text.found_append_of_foreign (hW u v hw)]
  have hq : (Text.found ws q).Sublist (Text.found ws (u ++ q)) :=
    (List.sublist_append_right _ _).trans (Text.found_append_sublist ws u q)
  exact ((List.Sublist.refl _).append hq).trans (Text.found_append_sublist ws p (u ++ q))

/-- Where neither the marks read nor the marks written take part in a word, the words stay. -/
lemma found_eq (hW : ∀ u v, W u v → Text.foreign ws u = true ∧ Text.foreign ws v = true)
    (h : Reworded W s t) : Text.found ws t = Text.found ws s := by
  refine rel (R := fun s t => Text.found ws t = Text.found ws s) (fun _ => rfl)
    (fun h h' => h'.trans h) (fun p u v q hw => ?_) h
  rw [Text.found_append_of_foreign (hW u v hw).1, Text.found_append_of_foreign (hW u v hw).2]

/-- A character that begins a word wherever it stands does so in the reworded text, if no word goes
on with a mark that is read. -/
lemma leads (hW : ∀ u v, W u v → Text.stops ws u = true ∧ Text.Leads x ws v)
    (h : Reworded W s t) (hs : Text.Leads x ws s) : Text.Leads x ws t := by
  refine rel (R := fun s t => Text.Leads x ws s → Text.Leads x ws t) (fun _ => id)
    (fun h h' => h' ∘ h) (fun p u v q hw hp => ?_) h hs
  have hq : Text.Leads x ws q := hp.suffix ⟨p ++ u, by simp⟩
  exact (hp.left (hW u v hw).1).append ((hW u v hw).2.append hq)

end Reworded

namespace Pattern

variable {α : Type} {pat : Pattern α} {f : α → Text} {W : Text → Text → Prop}

/-- A replacement rewords the text if it rewords the spans. -/
lemma reworded_rewrite
    (h : ∀ b s m, pat.read b s = some m → Reworded W m.source (f m.captured)) (b : Option Char)
    (s : Text) : Reworded W s (pat.rewrite f b s) := by
  induction b, s using readInduction pat with
  | nil b =>
    rw [rewrite_nil]
    exact .refl
  | plain b c t hr ih =>
    rw [rewrite_plain hr]
    have hfirst : Reworded W [c] [c] := .refl
    exact hfirst.append ih
  | span b s m hr ih =>
    rw [rewrite_span hr]
    have hs : Reworded W (m.source ++ m.rest)
        (f m.captured ++ pat.rewrite f m.source.getLast? m.rest) := (h b s m hr).append ih
    rwa [source_append_rest hr] at hs

end Pattern

open Pattern Markup

/-- The marks of a rule that are fixed, each with what is written in its place. -/
def Rule.rewordings : Rule → List (Text × Text)
  | quotedLine => [("bq.".toList, quoteMark)]
  | strong => [("*".toList, "**".toList), ("_".toList, "**".toList)]
  | header => (List.range 7).map fun n => (['h', n.digitChar, '.'], List.replicate (n + 1) '#')
  | monospace => [("\x7b\x7b".toList, "`".toList), ("\x7d\x7d".toList, "`".toList)]
  | citation => [("??".toList, "<cite>".toList), ("??".toList, "</cite>".toList)]
  | insert => [("+".toList, "<ins>".toList), ("+".toList, "</ins>".toList)]
  | superscript => [("^".toList, "<sup>".toList), ("^".toList, "</sup>".toList)]
  | subscript => [("~".toList, "<sub>".toList), ("~".toList, "</sub>".toList)]
  | delete => [("-".toList, "~~".toList)]
  | codeBlock => [("\x7bcode\x7d".toList, fence)]
  | image => [("!".toList, "![](".toList), ("!".toList, ")".toList)]
  | link =>
    [("|".toList, "](".toList), ("]".toList, ")".toList), ("[".toList, "<".toList),
      ("]".toList, ">".toList)]
  | tableHeader => [(headerBar, "|".toList), ("\r\n".toList, "\n".toList)]
  | noFormat => [("\x7bnoformat\x7d".toList, fence)]
  | color =>
    [("\x7bcolor:".toList, "<span style=\"color:".toList), ("\x7d".toList, "\">".toList),
      ("\x7bcolor\x7d".toList, "</span>".toList)]
  | list | quoteBlock => []

/-- A rule writes the second text in place of the first one. -/
inductive Rule.Writes : Rule → Text → Text → Prop where
  | fixed {r u v} :
    (u, v) ∈ r.rewordings →
    Writes r u v
  | run {run} :
    run ≠ [] →
    (∀ x ∈ run, isListMark x = true) →
    Writes .list (run ++ " ".toList) (renderItem run [])
  | language {l} :
    (∀ x ∈ l, isLanguageChar x = true) →
    Writes .codeBlock ("\x7bcode:".toList ++ l ++ "\x7d".toList) (fence ++ l)
  | quote {c} :
    Writes .quoteBlock ("\x7bquote\x7d".toList ++ c ++ "\x7bquote\x7d".toList) (renderQuote c)
  | row {n} :
    Writes .tableHeader "\n".toList ("\n".toList ++ separatorRow n ++ "\n".toList)

namespace Rule

variable {o : Options} {r : Rule} {u v z a s : Text}

/-- Apart from four rules, all marks are fixed. -/
lemma Writes.mem_rewordings (h : r.Writes u v)
    (hr : r ∉ [list, codeBlock, quoteBlock, tableHeader]) : (u, v) ∈ r.rewordings := by
  cases h with
  | fixed hm => exact hm
  | run | language | quote | row => simp at hr

lemma reworded_fixed (h : (u, v) ∈ r.rewordings) : Reworded r.Writes u v :=
  .single (.fixed h)

/-- Text between two fixed marks. -/
lemma reworded_between {u' v' : Text} (hu : (u, u') ∈ r.rewordings) (hv : (v, v') ∈ r.rewordings) :
    Reworded r.Writes (u ++ a ++ v) (u' ++ a ++ v') :=
  ((reworded_fixed hu).append .refl).append (reworded_fixed hv)

section Around

variable {c : Char} {m closing : Text} {inside : Char → Bool}

/-- A rule for spans between two markers that writes its content between two others. -/
lemma reworded_around {f : Text → Text} (u v : Text) (hf : ∀ a, f a = u ++ a ++ v)
    (hu : (c :: m, u) ∈ r.rewordings) (hv : (closing, v) ∈ r.rewordings) (s : Text) :
    Reworded r.Writes s ((around c m inside closing).replace f s) := by
  refine reworded_rewrite (fun b t p hp => ?_) none s
  rw [around_source hp, hf]
  exact reworded_between hu hv

lemma reworded_element {name : String}
    (hu : (c :: m, "<".toList ++ name.toList ++ ">".toList) ∈ r.rewordings)
    (hv : (closing, "</".toList ++ name.toList ++ ">".toList) ∈ r.rewordings) (s : Text) :
    Reworded r.Writes s ((around c m inside closing).replace (element name) s) :=
  reworded_around _ _ (fun a => by simp [element]) hu hv s

end Around

lemma mem_rewordings_of_headerLevel? {d : Char} {n : Nat} (h : headerLevel? d = some n) :
    (['h', d, '.'], List.replicate (n + 1) '#') ∈ header.rewordings := by
  rw [headerLevel?] at h
  split at h
  · next hd =>
    have hle : 48 ≤ d.toNat ∧ d.toNat ≤ 54 := hd
    have hn : d.toNat - 48 = n := Option.some.inj h
    have hdigit : ∀ k < 7, Char.ofNat (48 + k) = k.digitChar := by decide
    have hd : d = n.digitChar := by
      rw [← hdigit n (by omega), ← Char.ofNat_toNat d]
      congr 1
      omega
    rw [hd]
    exact List.mem_map.2 ⟨n, List.mem_range.2 (by omega), rfl⟩
  · cases h

lemma reworded_codeBlock {b : Option Char} {m : Span (Text × Text)}
    (h : Markup.codeBlock.read b s = some m) :
    Reworded codeBlock.Writes m.source (fence ++ m.captured.1 ++ m.captured.2 ++ fence) := by
  obtain ⟨⟨l, op, t⟩, ho, h⟩ := Option.bind_eq_some_iff.1 h
  obtain ⟨⟨c, r⟩, -, rfl⟩ := Option.map_eq_some_iff.1 h
  have hopen : Reworded codeBlock.Writes op (fence ++ l) := by
    rcases (codeOpening?_eq_some_iff.1 ho).2 with ⟨rfl, rfl⟩ | ⟨-, hl, rfl⟩
    · exact reworded_fixed (by decide)
    · exact .single (.language hl)
  exact (hopen.append .refl).append (reworded_fixed (by decide))

/-! ## The table rule -/

lemma reworded_unifyBreaks {W : Text → Text → Prop} (hW : W "\r\n".toList "\n".toList) (s : Text) :
    Reworded W s (Text.unifyBreaks s) := by
  induction s using Text.unifyBreaks.induct with
  | case1 => exact .refl
  | case2 s ih => exact (Reworded.single hW).append ih
  | case3 c s hbreak ih =>
    have hc : c = '\r' → s.head? ≠ some '\n' := by
      rintro rfl e
      obtain ⟨t, rfl⟩ := List.head?_eq_some_iff.1 e
      exact hbreak t rfl rfl
    -- a carriage return on its own is no break and stays
    rw [Text.unifyBreaks_cons hc]
    have hfirst : Reworded W [c] [c] := .refl
    exact hfirst.append ih

lemma reworded_singleBars (l : Text) : Reworded tableHeader.Writes l (singleBars l) := by
  refine reworded_rewrite (fun b s m hm => ?_) none l
  rw [(read_marker_iff.1 hm).2]
  exact reworded_fixed (by decide)

lemma reworded_tableLine (l : Text) :
    Reworded tableHeader.Writes (l ++ ['\n']) (Text.unlines (tableLine l) ++ ['\n']) := by
  rw [tableLine]
  split
  · have hrow := (reworded_singleBars l).append (.single (.row (n := headerColumns l)))
    rw [Text.unlines_cons (by simp), Text.unlines_singleton]
    simpa using hrow
  · rw [Text.unlines_singleton]
    exact .refl

lemma reworded_flatMap_tableLine {ls : List Text} (h : ls ≠ []) :
    Reworded tableHeader.Writes (Text.unlines ls ++ ['\n'])
      (Text.unlines (ls.flatMap tableLine) ++ ['\n']) := by
  induction ls with
  | nil => exact absurd rfl h
  | cons l ls ih =>
    by_cases hls : ls = []
    · simpa [hls] using reworded_tableLine l
    · have key := (reworded_tableLine l).append (ih hls)
      rw [List.flatMap_cons, Text.unlines_cons hls,
        Text.unlines_append (tableLine_ne_nil l) (flatMap_tableLine_ne_nil hls)]
      simpa using key

/-! ## All rules -/

/-- A rule other than that for tables rewords its text. -/
lemma reworded_apply (o : Options) (h : r ≠ .tableHeader) (s : Text) :
    Reworded r.Writes s (r.apply o s) := by
  cases r with
  | quotedLine =>
    refine reworded_rewrite (fun b t m hm => ?_) none s
    rw [quotedLine_source hm]
    exact (reworded_fixed (by decide)).append .refl
  | strong =>
    refine reworded_rewrite (fun b t m hm => ?_) none s
    obtain ⟨d, hd, hs⟩ := strongSpan_source hm
    have hmark : ([d], "**".toList) ∈ strong.rewordings := by rcases hd with rfl | rfl <;> decide
    rw [hs]
    exact reworded_between hmark hmark
  | list =>
    refine reworded_rewrite (fun b t m hm => ?_) none s
    obtain ⟨hne, hrun, hs⟩ := listItem_source hm
    have key : Reworded list.Writes (m.captured.1 ++ " ".toList ++ m.captured.2)
        (renderItem m.captured.1 [] ++ m.captured.2) :=
      (Reworded.single (.run hne hrun)).append .refl
    rw [hs]
    simpa [renderItem] using key
  | header =>
    refine reworded_rewrite (fun b t m hm => ?_) none s
    obtain ⟨d, hd, hs⟩ := headerLine_source hm
    rw [hs]
    exact (reworded_fixed (mem_rewordings_of_headerLevel? hd)).append .refl
  | monospace =>
    exact reworded_around "`".toList "`".toList (fun _ => rfl) (by decide) (by decide) s
  | citation | insert | superscript | subscript =>
    exact reworded_element (by decide) (by decide) s
  | image =>
    exact reworded_around "![](".toList ")".toList (fun _ => rfl) (by decide) (by decide) s
  | delete =>
    have hmark : ("-".toList, "~~".toList) ∈ delete.rewordings := by decide
    simp only [apply, writeDeletions]
    split
    · refine reworded_rewrite (fun b t m hm => ?_) none s
      rw [deletedSpan_source hm]
      exact reworded_between hmark hmark
    · refine reworded_rewrite (fun b t m hm => ?_) none s
      rw [around_source hm]
      exact .refl
  | codeBlock => exact reworded_rewrite (fun b t m hm => reworded_codeBlock hm) none s
  | quoteBlock =>
    refine reworded_rewrite (fun b t m hm => ?_) none s
    rw [quoteBlock_source hm]
    exact .single .quote
  | link =>
    have hbar : Reworded link.Writes "|".toList "](".toList := reworded_fixed (by decide)
    have hclose : Reworded link.Writes "]".toList ")".toList := reworded_fixed (by decide)
    have hangle : Reworded link.Writes "[".toList "<".toList := reworded_fixed (by decide)
    have hangle' : Reworded link.Writes "]".toList ">".toList := reworded_fixed (by decide)
    -- the links with a text come first; bare ones are looked for in what has been written
    have piped : Reworded link.Writes s (convertPipedLinks s) := by
      refine reworded_rewrite (fun b t m hm => ?_) none s
      have key := ((Reworded.append (.refl (s := "[".toList ++ m.captured.1)) hbar).append
        (.refl (s := m.captured.2))).append hclose
      simpa [pipedLink_source hm] using key
    refine piped.trans (reworded_rewrite (fun b t m hm => ?_) none _)
    rw [bareLink_source hm]
    exact (hangle.append .refl).append hangle'
  | tableHeader => exact absurd rfl h
  | noFormat =>
    refine reworded_rewrite (fun b t m hm => ?_) none s
    rw [(read_marker_iff.1 hm).2]
    exact reworded_fixed (by decide)
  | color =>
    have hopen : Reworded color.Writes "\x7bcolor:".toList "<span style=\"color:".toList :=
      reworded_fixed (by decide)
    have hname : Reworded color.Writes "\x7d".toList "\">".toList := reworded_fixed (by decide)
    have hclose : Reworded color.Writes "\x7bcolor\x7d".toList "</span>".toList :=
      reworded_fixed (by decide)
    refine reworded_rewrite (fun b t m hm => ?_) none s
    rw [colorSpan_source hm]
    exact (((hopen.append .refl).append hname).append .refl).append hclose

/-- Each rule rewords its text together with the line feed behind it. -/
lemma reworded_apply_break (o : Options) (r : Rule) (s : Text) :
    Reworded r.Writes (s ++ ['\n']) (r.apply o s ++ ['\n']) := by
  by_cases h : r = .tableHeader
  · subst h
    have hbreak : tableHeader.Writes "\r\n".toList "\n".toList := .fixed (by decide)
    have hunify := (reworded_unifyBreaks hbreak s).append (t := ['\n']) .refl
    rw [← Text.unlines_lines] at hunify
    exact hunify.trans (reworded_flatMap_tableLine (Text.lines_ne_nil s))
  · exact (reworded_apply o h s).append .refl

/-! ## Words in quotes -/

section Quotes

variable {ws : List Text} {x : Char} {c e : Text} {ls : List Text}

lemma found_unlines (hn : Text.foreign ws "\n".toList = true) (ls : List Text) :
    Text.found ws (Text.unlines ls) = ls.flatMap (Text.found ws) := by
  induction ls with
  | nil => rfl
  | cons l ls ih =>
    by_cases hls : ls = []
    · simp [hls]
    · have key := Text.found_append_of_foreign (a := l) (s := Text.unlines ls) hn
      rw [Text.unlines_cons hls, List.flatMap_cons, ← ih]
      exact key

lemma found_lines (hn : Text.foreign ws "\n".toList = true)
    (hr : Text.foreign ws "\r\n".toList = true) (s : Text) :
    (Text.lines s).flatMap (Text.found ws) = Text.found ws s := by
  rw [← found_unlines hn, Text.unlines_lines]
  exact (reworded_unifyBreaks (W := fun u v => u = "\r\n".toList ∧ v = "\n".toList) ⟨rfl, rfl⟩
    s).found_eq (by rintro _ _ ⟨rfl, rfl⟩; exact ⟨hr, hn⟩)

/-- A quote is written with the words of its content, if no word begins in a quote mark or holds a
break. -/
lemma found_renderQuote (hn : Text.foreign ws "\n".toList = true)
    (hr : Text.foreign ws "\r\n".toList = true) (hq : Text.silent ws quoteMark = true) (c : Text) :
    Text.found ws (renderQuote c) = Text.found ws c := by
  have hbreaks : ∀ e ∈ endBreaks, e ≠ [] → Text.foreign ws e = true := by
    simp only [endBreaks, List.forall_mem_cons]
    exact ⟨fun h => absurd rfl h, fun _ => hn, fun _ => hr, by simp⟩
  have hfront : ∀ e ∈ endBreaks, ∀ s, Text.found ws (e ++ s) = Text.found ws s := by
    intro e he s
    by_cases hne : e = []
    · rw [hne, List.nil_append]
    · exact Text.found_append_of_foreign (a := []) (hbreaks e he hne)
  have hback : ∀ e ∈ endBreaks, ∀ s, Text.found ws (s ++ e) = Text.found ws s := by
    intro e he s
    by_cases hne : e = []
    · rw [hne, List.append_nil]
    · exact Text.found_append_foreign (hbreaks e he hne)
  -- a quote drops nothing but a break at each end and empty lines
  obtain ⟨e, he, hc⟩ := exists_append_dropLeadingBreak c
  obtain ⟨e', he', hd⟩ := exists_dropTrailingBreak_append (dropLeadingBreak c)
  have hlines : Text.found ws (renderQuote c) =
      Text.found ws (dropTrailingBreak (dropLeadingBreak c)) := by
    rw [renderQuote, found_unlines hn, List.flatMap_map]
    simp only [Text.found_append_of_silent hq]
    rw [quoteLines, flatMap_dropEmptyTail rfl, found_lines hn hr]
  rw [hlines, ← hback e' he', ← hd, ← hfront e he, ← hc]

lemma leads_unlines_iff (hn : Text.stops ws "\n".toList = true) (hx : x ≠ '\n') :
    Text.Leads x ws (Text.unlines ls) ↔ ∀ l ∈ ls, Text.Leads x ws l := by
  induction ls with
  | nil => exact ⟨fun _ l hl => absurd hl List.not_mem_nil, fun _ => .of_not_mem List.not_mem_nil⟩
  | cons l ls ih =>
    by_cases hls : ls = []
    · simp [hls]
    · rw [Text.unlines_cons hls, List.forall_mem_cons, ← ih]
      constructor
      · exact fun h => ⟨h.left hn, h.suffix ⟨l ++ ['\n'], by simp⟩⟩
      · rintro ⟨hl, h⟩
        have hbreak : Text.Leads x ws ['\n'] := .of_not_mem (by simpa using hx)
        exact hl.append (hbreak.append h)

/-- If a character begins a word wherever it stands in the content of a quote, then also in the
quote as it is written. -/
lemma leads_renderQuote (hn : Text.stops ws "\n".toList = true)
    (hr : Text.stops ws "\r\n".toList = true) (hx : x ∉ "> \n".toList) (h : Text.Leads x ws c) :
    Text.Leads x ws (renderQuote c) := by
  have hxn : x ≠ '\n' := fun e => hx (e ▸ by decide)
  obtain ⟨e, -, hc⟩ := exists_append_dropLeadingBreak c
  obtain ⟨e', he', hd⟩ := exists_dropTrailingBreak_append (dropLeadingBreak c)
  have hinner : Text.Leads x ws (dropTrailingBreak (dropLeadingBreak c)) := by
    have hfront : Text.Leads x ws (dropLeadingBreak c) := h.suffix ⟨e, hc.symm⟩
    rw [hd] at hfront
    simp only [endBreaks, List.mem_cons, List.not_mem_nil, or_false] at he'
    rcases he' with rfl | rfl | rfl
    · simpa using hfront
    · exact Text.Leads.left (s := []) (by simpa using hfront) hn
    · exact Text.Leads.left (s := []) (by simpa using hfront) hr
  have hunify : Text.Leads x ws (Text.unifyBreaks (dropTrailingBreak (dropLeadingBreak c))) :=
    (reworded_unifyBreaks (W := fun u v => u = "\r\n".toList ∧ v = "\n".toList) ⟨rfl, rfl⟩
      _).leads (by
        rintro _ _ ⟨rfl, rfl⟩
        exact ⟨hr, .of_not_mem (by simpa using hxn)⟩) hinner
  rw [← Text.unlines_lines, leads_unlines_iff hn hxn] at hunify
  rw [renderQuote, leads_unlines_iff hn hxn]
  intro k hk
  obtain ⟨l, hl, rfl⟩ := List.mem_map.1 hk
  have hmark : Text.Leads x ws quoteMark := .of_not_mem fun hq => hx (by
    have hsub : quoteMark ⊆ "> \n".toList := by decide
    exact hsub hq)
  exact hmark.append (hunify l (dropEmptyTail_subset _ hl))

end Quotes

/-! ## Rules that leave words alone -/

/-- Whether neither the marks that a rule reads nor those that it writes take part in a word. -/
def avoids (ws : List Text) : Rule → Bool
  | list => ws.all fun w => !w.isEmpty && !w.any (list.markup.toList.contains ·)
  | tableHeader => ws.all fun w => !w.isEmpty && !w.any (tableHeader.markup.toList.contains ·)
  | codeBlock | quoteBlock => false
  | r => r.rewordings.all fun m => Text.foreign ws m.1 && Text.foreign ws m.2

lemma separatorRow_subset (n : Int) : separatorRow n ⊆ tableHeader.markup.toList := by
  intro x hx
  by_contra hout
  have hbar : '|' ≠ x := ne_of_mem_of_not_mem (by decide) hout
  have hdash : '-' ≠ x := ne_of_mem_of_not_mem (by decide) hout
  simp [separatorRow, hbar.symm, hdash.symm] at hx

/-- The marks of lists and tables are made of the characters of these rules. -/
lemma Writes.subset_markup (h : r.Writes u v) (hr : r = .list ∨ r = .tableHeader) :
    u ⊆ r.markup.toList ∧ v ⊆ r.markup.toList := by
  cases h with
  | fixed hm =>
    have key : ∀ r, r = list ∨ r = tableHeader →
        ∀ m ∈ r.rewordings, m.1 ⊆ r.markup.toList ∧ m.2 ⊆ r.markup.toList := by
      rintro r (rfl | rfl) <;> decide
    exact key _ hr _ hm
  | @run run hne hrun =>
    have hread : run ⊆ list.markup.toList := fun x hx => mem_markup_of_isListMark (hrun x hx)
    refine ⟨List.append_subset.2 ⟨hread, by decide⟩, fun x hx => ?_⟩
    by_contra hout
    have hfilter := filter_renderItem (p := (· == x)) run []
      fun y hy => by simpa using ne_of_mem_of_not_mem hy hout
    exact Text.filter_beq_eq_nil_iff.1 hfilter hx
  | row =>
    have hbreak : "\n".toList ⊆ tableHeader.markup.toList := by decide
    exact ⟨hbreak, List.append_subset.2
      ⟨List.append_subset.2 ⟨hbreak, separatorRow_subset _⟩, hbreak⟩⟩
  | language | quote => simp at hr

lemma Writes.ne_nil (h : r.Writes u v) (hr : r ≠ .quoteBlock) : u ≠ [] ∧ v ≠ [] := by
  cases h with
  | fixed hm =>
    have key : ∀ r : Rule, ∀ m ∈ r.rewordings, m.1 ≠ [] ∧ m.2 ≠ [] := by
      intro r
      cases r <;> decide
    exact key r _ hm
  | run | language | row => simp [renderItem, fence]
  | quote => exact absurd rfl hr

lemma Writes.foreign {ws : List Text} (ha : r.avoids ws = true) (h : r.Writes u v) :
    Text.foreign ws u = true ∧ Text.foreign ws v = true := by
  by_cases hr : r = .list ∨ r = .tableHeader
  · -- these marks are not fixed, but no word holds a character of theirs
    have hws : ∀ w ∈ ws, w ≠ [] ∧ ∀ x ∈ w, x ∉ r.markup.toList := by
      rcases hr with rfl | rfl <;> simpa [avoids] using ha
    have hnil : [] ∉ ws := fun h => (hws _ h).1 rfl
    obtain ⟨hu, hv⟩ := h.subset_markup hr
    obtain ⟨hune, hvne⟩ := h.ne_nil (by rcases hr with rfl | rfl <;> decide)
    exact ⟨Text.foreign_of_apart hune hnil fun w hw x hx hxu => (hws w hw).2 x hx (hu hxu),
      Text.foreign_of_apart hvne hnil fun w hw x hx hxv => (hws w hw).2 x hx (hv hxv)⟩
  · cases h with
    | @fixed r u v hm =>
      have hall :
          (r.rewordings.all fun m => Text.foreign ws m.1 && Text.foreign ws m.2) = true := by
        cases r with
        | list | tableHeader => simp at hr
        | codeBlock | quoteBlock => cases ha
        | _ => exact ha
      simpa using List.all_eq_true.1 hall _ hm
    | run | row => simp at hr
    | language | quote => cases ha

/-- A rule that reads and writes no part of a word keeps the words of the text. -/
lemma found_apply {ws : List Text} (ha : r.avoids ws = true) (o : Options) (s : Text) :
    Text.found ws (r.apply o s) = Text.found ws s := by
  by_cases hr : r = .tableHeader
  · subst hr
    have hfixed : ("\r\n".toList, "\n".toList) ∈ tableHeader.rewordings := by decide
    have hbreak : Text.foreign ws ['\n'] = true := ((Writes.fixed hfixed).foreign ha).2
    have key := (reworded_apply_break o .tableHeader s).found_eq fun _ _ hw => hw.foreign ha
    rwa [Text.found_append_foreign hbreak, Text.found_append_foreign hbreak] at key
  · exact (reworded_apply o hr s).found_eq fun _ _ hw => hw.foreign ha

end Rule

end Wikidown
