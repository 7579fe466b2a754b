import Wikidown.Proofs.Spans
import Wikidown.Proofs.Words

/-!
# The leftmost spans

What a span of a rule is can be said of any place of a text, without reading the text up to there
(`Rule.Valid`). A rule rewrites the leftmost spans: between them are gaps, and no span begins in a gap
(`Cut`). There is one way only to cut a text like that, and what is written for it is what the rule
makes of the text (`Rule.cut_iff_apply`).
-/

namespace Wikidown

/-- Of three texts one behind the other, the second one is a span, and it is written as the fourth. -/
abbrev SpanRelation := Text → Text → Text → Text → Prop

variable {V : SpanRelation} {u g a v w s t c : Text}

/-- No span begins in the text `g` that stands between `u` and `v`. -/
def Clear (V : SpanRelation) (u g v : Text) : Prop :=
  ∀ p q, g = p ++ q → q ≠ [] → ∀ a r w, q ++ v = a ++ r → ¬ V (u ++ p) a r w

/-- A text that stands behind `u` is cut into gaps and spans, and no span begins in a gap. The gaps are
kept, and the spans are written anew. -/
inductive Cut (V : SpanRelation) : Text → Text → Text → Prop
  | gap {u g : Text} (h : Clear V u g []) : Cut V u g g
  | span {u g a v w t : Text} (hgap : Clear V u g (a ++ v)) (ha : V (u ++ g) a v w)
    (h : Cut V (u ++ g ++ a) v t) : Cut V u (g ++ a ++ v) (g ++ w ++ t)

lemma clear_nil : Clear V u [] v :=
  fun _ _ h hq => absurd (List.append_eq_nil_iff.1 h.symm).2 hq

lemma clear_cons_iff {x : Char} : Clear V u (x :: g) v ↔
    (∀ a r w, x :: (g ++ v) = a ++ r → ¬ V u a r w) ∧ Clear V (u ++ [x]) g v := by
  constructor
  · intro h
    refine ⟨fun a r w heq => ?_, fun p q hg hq a r w heq => ?_⟩
    · simpa using h [] (x :: g) rfl (List.cons_ne_nil x g) a r w heq
    · simpa using h (x :: p) q (congrArg (x :: ·) hg) hq a r w heq
  · rintro ⟨hhere, hrest⟩ p q hg hq a r w heq
    cases p with
    | nil =>
      obtain rfl : x :: g = q := hg
      simpa using hhere a r w heq
    | cons y p =>
      obtain ⟨rfl, rfl⟩ := List.cons.inj hg
      simpa using hrest p q rfl hq a r w heq

/-- Where no span begins, one character more belongs to the gap in front. -/
lemma Cut.cons {x : Char} (hx : ∀ a r w, x :: s = a ++ r → ¬ V u a r w)
    (h : Cut V (u ++ [x]) s t) : Cut V u (x :: s) (x :: t) := by
  cases h with
  | gap hgap => exact .gap (clear_cons_iff.2 ⟨by simpa using hx, hgap⟩)
  | @span _ g a v w t hgap ha hrest =>
    refine .span (g := x :: g) (clear_cons_iff.2 ⟨by simpa using hx, hgap⟩) (by simpa using ha) ?_
    simpa using hrest

namespace Pattern

variable {α : Type} {pat : Pattern α} {f : α → Text}

/-- A pattern reads the spans of a relation, wherever they stand, and writes them so. -/
def ReadsAs (pat : Pattern α) (f : α → Text) (V : SpanRelation) : Prop :=
  ∀ u a v w, V u a v w ↔ ∃ x, pat.read u.getLast? (a ++ v) = some ⟨a, x, v⟩ ∧ f x = w

lemma ReadsAs.read_eq_none_iff (h : pat.ReadsAs f V) :
    pat.read u.getLast? s = none ↔ ∀ a r w, s = a ++ r → ¬ V u a r w := by
  constructor
  · rintro hnone a r w rfl hV
    obtain ⟨x, hx, -⟩ := (h u a r w).1 hV
    simp [hnone] at hx
  · intro hno
    cases hr : pat.read u.getLast? s with
    | none => rfl
    | some m =>
      have hs := source_append_rest hr
      refine absurd ((h u m.source m.rest (f m.captured)).2 ⟨m.captured, ?_, rfl⟩)
        (hno _ _ _ hs.symm)
      rw [hs, hr]

lemma ReadsAs.rewrite_of_clear (h : pat.ReadsAs f V) (hg : Clear V u g v) :
    pat.rewrite f u.getLast? (g ++ v) = g ++ pat.rewrite f (u ++ g).getLast? v := by
  induction g generalizing u with
  | nil => simp
  | cons x g ih =>
    obtain ⟨hhere, hrest⟩ := clear_cons_iff.1 hg
    have hnone : pat.read u.getLast? (x :: (g ++ v)) = none := h.read_eq_none_iff.2 hhere
    have hlast : (u ++ [x]).getLast? = some x := by simp
    rw [List.cons_append, rewrite_plain hnone, ← hlast, ih hrest, List.append_assoc,
      List.singleton_append, List.cons_append]

lemma ReadsAs.rewrite_of_cut (h : pat.ReadsAs f V) (hcut : Cut V u s t) :
    pat.rewrite f u.getLast? s = t := by
  induction hcut with
  | gap hgap => simpa using h.rewrite_of_clear hgap
  | @span u g a v w t hgap ha _ ih =>
    obtain ⟨x, hx, rfl⟩ := (h _ _ _ _).1 ha
    have hne : a ≠ [] := (pat.splits hx).1
    have hlast : (u ++ g ++ a).getLast? = a.getLast? := List.getLast?_append_of_ne_nil _ hne
    rw [hlast] at ih
    rw [List.append_assoc, h.rewrite_of_clear hgap, rewrite_span hx, ih, List.append_assoc]

lemma ReadsAs.cut_rewrite (h : pat.ReadsAs f V) (u s : Text) :
    Cut V u s (pat.rewrite f u.getLast? s) := by
  generalize hb : u.getLast? = b
  induction b, s using readInduction pat generalizing u with
  | nil b => simpa using Cut.gap (clear_nil (V := V) (u := u) (v := []))
  | plain b x s hr ih =>
    rw [rewrite_plain hr]
    exact (ih (u ++ [x]) (by simp)).cons (h.read_eq_none_iff.1 (hb ▸ hr))
  | span b s m hr ih =>
    have hlast : (u ++ m.source).getLast? = m.source.getLast? :=
      List.getLast?_append_of_ne_nil _ (pat.splits hr).1
    have hm : V u m.source m.rest (f m.captured) := by
      refine (h _ _ _ _).2 ⟨m.captured, ?_, rfl⟩
      rw [source_append_rest hr, hb, hr]
    rw [rewrite_span hr]
    have hcut := Cut.span (g := []) clear_nil (by simpa using hm) (by simpa using ih _ hlast)
    simpa [source_append_rest hr] using hcut

/-- A text is cut at the leftmost spans, and is written with the spans anew, in one way. -/
lemma ReadsAs.cut_iff_replace (h : pat.ReadsAs f V) : Cut V [] s t ↔ pat.replace f s = t := by
  constructor
  · exact fun hcut => h.rewrite_of_cut hcut
  · rintro rfl
    exact h.cut_rewrite [] s

end Pattern

/-! ## The spans of the rules -/

namespace Rule

open Markup

/-- The rules that rewrite spans of characters. -/
def spanRules : List Rule :=
  [.strong, .monospace, .citation, .insert, .superscript, .subscript, .delete, .image, .codeBlock, .color]

/-- The rules that write text between two delimiters of one line as an element. -/
def elementRules : List (Rule × Char × String) :=
  [(.insert, '+', "ins"), (.superscript, '^', "sup"), (.subscript, '~', "sub")]

/-- What is a span of a rule between a text `u` and a text `v`, and how it is written; deletions are
struck through. -/
inductive Valid : Rule → Text → Text → Text → Text → Prop
  | strong {u c v : Text} {d : Char} (hd : d = '*' ∨ d = '_') (hink : startsInk c = true)
    (hc : d ∉ c) (hline : '\n' ∉ c) :
    Valid .strong u (d :: c ++ [d]) v ("**".toList ++ c ++ "**".toList)
  | monospace {u c v : Text} (hne : c ≠ []) (hc : '\x7d' ∉ c) :
    Valid .monospace u ("\x7b\x7b".toList ++ c ++ "\x7d\x7d".toList) v
      ("`".toList ++ c ++ "`".toList)
  | citation {u c v : Text} (hne : c ≠ []) (hc : '?' ∉ c) :
    Valid .citation u ("??".toList ++ c ++ "??".toList) v (element "cite" c)
  | element {r : Rule} {d : Char} {name : String} {u c v : Text}
    (hr : (r, d, name) ∈ elementRules) (hne : c ≠ []) (hc : d ∉ c) (hline : '\n' ∉ c) :
    Valid r u (d :: c ++ [d]) v (element name c)
  | delete {u c v : Text} (hbefore : u.getLast?.all isBlank = true) (hstart : startsInk c = true)
    (hend : endsInk c = true) (hc : '-' ∉ c) (hline : '\n' ∉ c)
    (hbehind : v.head?.all isBlank = true) :
    Valid .delete u ('-' :: c ++ ['-']) v ("~~".toList ++ c ++ "~~".toList)
  | image {u c v : Text} (hne : c ≠ []) (hc : '!' ∉ c) (hink : ∀ x ∈ c, isBlank x = false) :
    Valid .image u ('!' :: c ++ ['!']) v ("![](".toList ++ c ++ ")".toList)
  | code {u c v : Text} (hc : ¬ "\x7bcode\x7d".toList <:+: c) :
    Valid .codeBlock u ("\x7bcode\x7d".toList ++ c ++ "\x7bcode\x7d".toList) v
      (fence ++ c ++ fence)
  | codeIn {u l c v : Text} (hne : l ≠ []) (hl : ∀ x ∈ l, isLanguageChar x = true)
    (hc : ¬ "\x7bcode\x7d".toList <:+: c) :
    Valid .codeBlock u
      ("\x7bcode:".toList ++ l ++ "\x7d".toList ++ c ++ "\x7bcode\x7d".toList) v
      (fence ++ l ++ c ++ fence)
  | color {u k c v : Text} (hne : k ≠ []) (hk : '\x7d' ∉ k)
    (hc : ¬ "\x7bcolor\x7d".toList <:+: c) :
    Valid .color u
      ("\x7bcolor:".toList ++ k ++ "\x7d".toList ++ c ++ "\x7bcolor\x7d".toList) v
      ("<span style=\"color:".toList ++ k ++ "\">".toList ++ c ++ "</span>".toList)

end Rule

namespace Markup

open Pattern

lemma startsInk_ne_nil (h : startsInk c = true) : c ≠ [] := by
  rintro rfl
  cases h

lemma read_emphasis_iff {d : Char} {b : Option Char} {a x v : Text} :
    (emphasis d).read b (a ++ v) = some ⟨a, x, v⟩ ↔
      a = d :: x ++ [d] ∧ startsInk x = true ∧ d ∉ x ∧ '\n' ∉ x := by
  rw [emphasis, read_filter_iff]
  change (delimited d).read b (a ++ v) = some ⟨a, x, v⟩ ∧ startsInk x = true ↔ _
  rw [read_delimited_iff]
  exact ⟨fun ⟨⟨ha, _, hx⟩, hink⟩ => ⟨ha, hink, hx⟩,
    fun ⟨ha, hink, hx⟩ => ⟨⟨ha, startsInk_ne_nil hink, hx⟩, hink⟩⟩

lemma readsAs_strongSpan : strongSpan.ReadsAs (fun c => "**".toList ++ c ++ "**".toList)
    (Rule.Valid .strong) := by
  intro u a v w
  constructor
  · intro h
    cases h with
    | @strong _ c _ d hd hink hc hline =>
      have hread := read_emphasis_iff (b := u.getLast?) (v := v).2 ⟨rfl, hink, hc, hline⟩
      rcases hd with rfl | rfl
      · exact ⟨c, read_orElse_iff.2 (.inl hread), rfl⟩
      · have hstar := (opensWith_emphasis (d := '*')).read_eq_none (x := '_') (by decide) u.getLast?
          (c ++ ['_'] ++ v)
        exact ⟨c, read_orElse_iff.2 (.inr ⟨hstar, hread⟩), rfl⟩
    | element hr => simp [Rule.elementRules] at hr
  · rintro ⟨x, hx, rfl⟩
    rcases read_orElse_iff.1 hx with hx | ⟨-, hx⟩
    · obtain ⟨rfl, hink, hc, hline⟩ := read_emphasis_iff.1 hx
      exact .strong (.inl rfl) hink hc hline
    · obtain ⟨rfl, hink, hc, hline⟩ := read_emphasis_iff.1 hx
      exact .strong (.inr rfl) hink hc hline

lemma readsAs_monospaceSpan : monospaceSpan.ReadsAs (fun c => "`".toList ++ c ++ "`".toList)
    (Rule.Valid .monospace) := by
  intro u a v w
  constructor
  · intro h
    cases h with
    | @monospace _ c _ hne hc =>
      exact ⟨c, (read_around_eq_some_iff rfl).2 ⟨rfl, hne, forall_ne_iff.2 hc⟩, rfl⟩
    | element hr => simp [Rule.elementRules] at hr
  · rintro ⟨x, hx, rfl⟩
    obtain ⟨rfl, hne, hc⟩ := (read_around_eq_some_iff rfl).1 hx
    exact .monospace hne (forall_ne_iff.1 hc)

lemma readsAs_citationSpan : citationSpan.ReadsAs (element "cite") (Rule.Valid .citation) := by
  intro u a v w
  constructor
  · intro h
    cases h with
    | @citation _ c _ hne hc =>
      exact ⟨c, (read_around_eq_some_iff rfl).2 ⟨rfl, hne, forall_ne_iff.2 hc⟩, rfl⟩
    | element hr => simp [Rule.elementRules] at hr
  · rintro ⟨x, hx, rfl⟩
    obtain ⟨rfl, hne, hc⟩ := (read_around_eq_some_iff rfl).1 hx
    exact .citation hne (forall_ne_iff.1 hc)

lemma readsAs_delimited {r : Rule} {d : Char} {name : String}
    (hr : (r, d, name) ∈ Rule.elementRules) :
    (delimited d).ReadsAs (element name) (Rule.Valid r) := by
  intro u a v w
  constructor
  · intro h
    cases h with
    | @element _ d' name' _ c _ hr' hne hc hline =>
      have hsame : d' = d ∧ name' = name := by
        simp only [Rule.elementRules, List.mem_cons, List.not_mem_nil, Prod.mk.injEq] at hr hr'
        rcases hr with ⟨rfl, rfl, rfl⟩ | ⟨rfl, rfl, rfl⟩ | ⟨rfl, rfl, rfl⟩ | hr <;> simp_all
      obtain ⟨rfl, rfl⟩ := hsame
      exact ⟨c, read_delimited_iff.2 ⟨rfl, hne, hc, hline⟩, rfl⟩
    | _ => simp [Rule.elementRules] at hr
  · rintro ⟨x, hx, rfl⟩
    obtain ⟨rfl, hne, hc, hline⟩ := read_delimited_iff.1 hx
    exact .element hr hne hc hline

lemma readsAs_deletedSpan : deletedSpan.ReadsAs (fun c => "~~".toList ++ c ++ "~~".toList)
    (Rule.Valid .delete) := by
  intro u a v w
  constructor
  · intro h
    cases h with
    | @delete _ c _ hbefore hstart hend hc hline hbehind =>
      refine ⟨c, read_filter_iff.2 ⟨read_delimited_iff.2 ⟨rfl, startsInk_ne_nil hstart, hc, hline⟩, ?_⟩,
        rfl⟩
      simp only [hbefore, hstart, hend, hbehind, Bool.and_self]
    | element hr => simp [Rule.elementRules] at hr
  · rintro ⟨x, hx, rfl⟩
    obtain ⟨hx, hfits⟩ := read_filter_iff.1 hx
    obtain ⟨rfl, -, hc, hline⟩ := read_delimited_iff.1 hx
    simp only [Bool.and_eq_true] at hfits
    obtain ⟨⟨⟨hbefore, hstart⟩, hend⟩, hbehind⟩ := hfits
    exact .delete hbefore hstart hend hc hline hbehind

lemma readsAs_imageSpan : imageSpan.ReadsAs (fun c => "![](".toList ++ c ++ ")".toList)
    (Rule.Valid .image) := by
  have hinside (c : Text) : (∀ x ∈ c, (!isBlank x && x != '!') = true) ↔
      '!' ∉ c ∧ ∀ x ∈ c, isBlank x = false := by
    simp only [Bool.and_eq_true, forall_and, forall_ne_iff, Bool.not_eq_true']
    exact and_comm
  intro u a v w
  constructor
  · intro h
    cases h with
    | @image _ c _ hne hc hink =>
      exact ⟨c, (read_around_eq_some_iff rfl).2 ⟨rfl, hne, (hinside c).2 ⟨hc, hink⟩⟩, rfl⟩
    | element hr => simp [Rule.elementRules] at hr
  · rintro ⟨x, hx, rfl⟩
    obtain ⟨rfl, hne, hx⟩ := (read_around_eq_some_iff rfl).1 hx
    obtain ⟨hc, hink⟩ := (hinside x).1 hx
    exact .image hne hc hink

lemma cut?_codeMarker_iff {r : Text} : Text.cut? "\x7bcode\x7d".toList s = some (c, r) ↔
    s = c ++ ("\x7bcode\x7d".toList ++ r) ∧ ¬ "\x7bcode\x7d".toList <:+: c :=
  Text.cut?_eq_some_iff (c := '\x7b') (m := "code\x7d".toList) (by decide)

lemma readsAs_codeBlock : codeBlock.ReadsAs (fun (l, c) => fence ++ l ++ c ++ fence)
    (Rule.Valid .codeBlock) := by
  have hread {b : Option Char} {o l c v : Text} (ho : ∀ r, codeOpening? (o ++ r) = some (l, o, r))
      (hc : ¬ "\x7bcode\x7d".toList <:+: c) :
      codeBlock.read b (o ++ c ++ "\x7bcode\x7d".toList ++ v) =
        some ⟨o ++ c ++ "\x7bcode\x7d".toList, (l, c), v⟩ := by
    have hcut := cut?_codeMarker_iff.2 ⟨(rfl : c ++ ("\x7bcode\x7d".toList ++ v) = _), hc⟩
    simp only [codeBlock, List.append_assoc, ho, hcut, Option.bind_some, Option.map_some]
  intro u a v w
  constructor
  · intro h
    cases h with
    | @code _ c _ hc =>
      exact ⟨([], c), hread (fun r => codeOpening?_eq_some_iff.2 ⟨rfl, .inl ⟨rfl, rfl⟩⟩) hc, by simp⟩
    | @codeIn _ l c _ hne hl hc =>
      exact ⟨(l, c), hread (fun r => codeOpening?_eq_some_iff.2 ⟨rfl, .inr ⟨hne, hl, rfl⟩⟩) hc, rfl⟩
    | element hr => simp [Rule.elementRules] at hr
  · rintro ⟨⟨l, c⟩, hx, rfl⟩
    obtain ⟨⟨l', o, t⟩, ho, hx⟩ := Option.bind_eq_some_iff.1 hx
    obtain ⟨⟨c', r⟩, hcut, hspan⟩ := Option.map_eq_some_iff.1 hx
    simp only [Span.mk.injEq, Prod.mk.injEq] at hspan
    obtain ⟨rfl, ⟨rfl, rfl⟩, rfl⟩ := hspan
    obtain ⟨-, hc⟩ := cut?_codeMarker_iff.1 hcut
    rcases (codeOpening?_eq_some_iff.1 ho).2 with ⟨rfl, rfl⟩ | ⟨hne, hl, rfl⟩
    · simpa using Rule.Valid.code hc
    · exact .codeIn hne hl hc

lemma readsAs_colorSpan : colorSpan.ReadsAs
    (fun (k, c) => "<span style=\"color:".toList ++ k ++ "\">".toList ++ c ++ "</span>".toList)
    (Rule.Valid .color) := by
  have hcut {s c r : Text} : Text.cut? "\x7bcolor\x7d".toList s = some (c, r) ↔
      s = c ++ ("\x7bcolor\x7d".toList ++ r) ∧ ¬ "\x7bcolor\x7d".toList <:+: c :=
    Text.cut?_eq_some_iff (c := '\x7b') (m := "color\x7d".toList) (by decide)
  intro u a v w
  constructor
  · intro h
    cases h with
    | @color _ k c _ hne hk hc =>
      have hopen : (around '\x7b' "color:".toList (· != '\x7d') "\x7d".toList).read none
          ("\x7bcolor:".toList ++ k ++ "\x7d".toList ++ (c ++ ("\x7bcolor\x7d".toList ++ v))) =
            some ⟨"\x7bcolor:".toList ++ k ++ "\x7d".toList, k, c ++ ("\x7bcolor\x7d".toList ++ v)⟩ :=
        (read_around_eq_some_iff rfl).2 ⟨rfl, hne, forall_ne_iff.2 hk⟩
      rw [← List.append_assoc, ← List.append_assoc] at hopen
      have hrest := hcut.2 ⟨(rfl : c ++ ("\x7bcolor\x7d".toList ++ v) = _), hc⟩
      refine ⟨(k, c), Option.bind_eq_some_iff.2 ⟨_, hopen, ?_⟩, rfl⟩
      rw [hrest, Option.map_some]
    | element hr => simp [Rule.elementRules] at hr
  · rintro ⟨⟨k, c⟩, hx, rfl⟩
    obtain ⟨⟨o, k', t⟩, ho, hx⟩ := Option.bind_eq_some_iff.1 hx
    obtain ⟨⟨c', r⟩, hrest, hspan⟩ := Option.map_eq_some_iff.1 hx
    simp only [Span.mk.injEq, Prod.mk.injEq] at hspan
    obtain ⟨rfl, ⟨rfl, rfl⟩, rfl⟩ := hspan
    obtain ⟨-, hc⟩ := hcut.1 hrest
    rw [← source_append_rest ho] at ho
    obtain ⟨rfl, hne, hk⟩ := (read_around_eq_some_iff rfl).1 ho
    exact .color hne (forall_ne_iff.1 hk) hc

end Markup

namespace Rule

open Pattern Markup

/-- Each of these rules replaces what a pattern reads, and the pattern reads its spans. -/
lemma exists_readsAs {r : Rule} {o : Options} (hr : r ∈ spanRules)
    (ho : r = .delete → o.strikethrough = true) : ∃ (α : Type) (pat : Pattern α) (f : α → Text),
      pat.ReadsAs f r.Valid ∧ r.apply o = pat.replace f := by
  cases r with
  | strong => exact ⟨_, _, _, readsAs_strongSpan, rfl⟩
  | monospace => exact ⟨_, _, _, readsAs_monospaceSpan, rfl⟩
  | citation => exact ⟨_, _, _, readsAs_citationSpan, rfl⟩
  | insert | superscript | subscript => exact ⟨_, _, _, readsAs_delimited (by decide), rfl⟩
  | delete =>
    refine ⟨_, _, _, readsAs_deletedSpan, ?_⟩
    change writeDeletions o.strikethrough = _
    rw [ho rfl]
    rfl
  | image => exact ⟨_, _, _, readsAs_imageSpan, rfl⟩
  | codeBlock => exact ⟨_, _, _, readsAs_codeBlock, rfl⟩
  | color => exact ⟨_, _, _, readsAs_colorSpan, rfl⟩
  | _ => exact absurd hr (by decide)

lemma cut_apply {r : Rule} {o : Options} (hr : r ∈ spanRules)
    (ho : r = .delete → o.strikethrough = true) (s : Text) : Cut r.Valid [] s (r.apply o s) := by
  obtain ⟨α, pat, f, hreads, happly⟩ := exists_readsAs hr ho
  rw [happly]
  exact hreads.cut_rewrite [] s

/-- Each of these rules rewrites the leftmost spans: every text is cut into gaps and spans so that no
span begins in a gap, in one way only, and the rule keeps the gaps and writes each span with what it
holds. -/
theorem cut_iff_apply {r : Rule} {o : Options} (hr : r ∈ spanRules)
    (ho : r = .delete → o.strikethrough = true) (s t : Text) :
    Cut r.Valid [] s t ↔ r.apply o s = t := by
  obtain ⟨α, pat, f, hreads, happly⟩ := exists_readsAs hr ho
  rw [happly]
  exact hreads.cut_iff_replace

/-- A dash inside a word opens no deletion, and the one that closes a deletion opens no other. -/
theorem cut_iff_apply_delete :
    Cut Rule.delete.Valid [] "a-b -c- d-".toList "a-b ~~c~~ d-".toList :=
  (cut_iff_apply (o := ⟨true⟩) (by decide) (fun _ => rfl) _ _).2 (by decide +kernel)

end Rule

end Wikidown
