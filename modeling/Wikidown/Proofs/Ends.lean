import Mathlib.Data.List.Chain
import Wikidown.Proofs.Content

/-!
# Ends and twins

What stands at the end of a text and which characters stand side by side. A rule whose spans lie
within one line brings only marks of its own to the end of a text (`Rule.getLast?_apply`), and the
rules for lines and strong text bring no two equal characters together (`Rule.apart_apply`).
-/

namespace Wikidown

/-- No two characters `q` stand side by side. -/
def Apart (q : Char) (s : Text) : Prop :=
  s.IsChain fun x y => ¬(x = q ∧ y = q)

namespace Apart

variable {q : Char} {s t u : Text}

lemma append_iff :
    Apart q (s ++ t) ↔
      Apart q s ∧ Apart q t ∧ ¬(s.getLast? = some q ∧ t.head? = some q) := by
  rw [Apart, List.isChain_append]
  refine and_congr_right fun _ => and_congr_right fun _ => ?_
  constructor
  · rintro h ⟨hs, ht⟩
    exact h q hs q ht ⟨rfl, rfl⟩
  · rintro h x hx y hy ⟨rfl, rfl⟩
    exact h ⟨hx, hy⟩

lemma of_not_mem (h : q ∉ s) : Apart q s := by
  induction s with
  | nil => exact .nil
  | cons c s ih =>
    obtain ⟨hc, hs⟩ : q ≠ c ∧ q ∉ s := by simpa using h
    have hc' : ¬([c].getLast? = some q ∧ s.head? = some q) := by simp [hc.symm]
    exact append_iff.2 ⟨.singleton c, ih hs, hc'⟩

/-- In front of a text, a text without `q` brings no two of them together. -/
lemma append_of_not_mem (h : q ∉ s) (ht : Apart q t) : Apart q (s ++ t) := by
  refine append_iff.2 ⟨of_not_mem h, ht, ?_⟩
  rintro ⟨hs, -⟩
  exact h (List.mem_of_getLast? hs)

/-- Behind a text, a text without `q` brings no two of them together. -/
lemma append_of_not_mem_right (h : q ∉ t) (hs : Apart q s) : Apart q (s ++ t) := by
  refine append_iff.2 ⟨hs, of_not_mem h, ?_⟩
  rintro ⟨-, ht⟩
  exact h (List.mem_of_head? ht)

/-- A text has no two `q` side by side exactly if they do not occur as a marker. -/
lemma iff_not_isInfix : Apart q s ↔ ¬ [q, q] <:+: s := by
  constructor
  · intro h hi
    have h2 : Apart q [q, q] := List.IsChain.infix h hi
    simp [Apart] at h2
  · intro h
    induction s with
    | nil => exact .nil
    | cons c s ih =>
      refine append_iff (s := [c]).2 ⟨.singleton c, ih fun hi => h ?_, ?_⟩
      · exact hi.trans (List.suffix_cons c s).isInfix
      · rintro ⟨hc, hs⟩
        obtain ⟨t, rfl⟩ := List.head?_eq_some_iff.1 hs
        cases hc
        exact h ⟨[], t, rfl⟩

end Apart

/-- What stands at the end of a text stands at the end of the part behind the marks. -/
lemma getLast?_append_of_not_mem {u a : Text} {x : Char} (hu : x ∉ u)
    (h : (u ++ a).getLast? = some x) : a.getLast? = some x := by
  cases ha : a.getLast? with
  | none =>
    rw [List.getLast?_append, ha, Option.none_or] at h
    exact absurd (List.mem_of_getLast? h) hu
  | some y => simpa [ha] using h

namespace Pattern

variable {α : Type} {pat : Pattern α} {f : α → Text}

/-- What a span is written as brings no two `q` together: it begins with another character, and it
ends with `q` only if the span did. -/
structure KeepsApart (q : Char) (source written : Text) : Prop where
  head : ∃ c, c ≠ q ∧ written.head? = some c
  last : written.getLast? = some q → source.getLast? = some q
  inner : Apart q source → Apart q written

lemma head?_rewrite {q : Char}
    (h : ∀ b s m, pat.read b s = some m → KeepsApart q m.source (f m.captured))
    {b : Option Char} {s : Text} (hx : (pat.rewrite f b s).head? = some q) : s.head? = some q := by
  cases hr : pat.read b s with
  | some m =>
    obtain ⟨c, hc, hf⟩ := (h b s m hr).head
    rw [rewrite_span hr, List.head?_append, hf] at hx
    exact absurd (Option.some.inj hx) hc
  | none =>
    cases s with
    | nil => simp at hx
    | cons c t => simpa [rewrite_plain hr] using hx

/-- If no span brings two `q` together, neither does the replacement of all spans. -/
lemma apart_replace {q : Char}
    (h : ∀ b s m, pat.read b s = some m → KeepsApart q m.source (f m.captured)) {s : Text}
    (hs : Apart q s) : Apart q (pat.replace f s) := by
  rw [replace_eq_rewrite]
  generalize none = b
  induction b, s using readInduction pat with
  | nil b => simpa using hs
  | plain b c t hr ih =>
    obtain ⟨-, ht, hct⟩ := Apart.append_iff (s := [c]).1 hs
    rw [rewrite_plain hr]
    refine Apart.append_iff (s := [c]).2 ⟨.singleton c, ih ht, ?_⟩
    rintro ⟨hc, hd⟩
    exact hct ⟨hc, head?_rewrite h hd⟩
  | span b s m hr ih =>
    have hm := h b s m hr
    rw [← source_append_rest hr] at hs
    obtain ⟨hsrc, hrest, hb⟩ := Apart.append_iff.1 hs
    rw [rewrite_span hr]
    refine Apart.append_iff.2 ⟨hm.inner hsrc, ih hrest, ?_⟩
    rintro ⟨hl, hd⟩
    exact hb ⟨hm.last hl, head?_rewrite h hd⟩

lemma KeepsApart.ne_nil {q : Char} {source written : Text} (h : KeepsApart q source written) :
    written ≠ [] := by
  obtain ⟨c, -, hc⟩ := h.head
  rintro rfl
  cases hc

/-- A part of the source between marks brings no two `q` together, if no mark is `q` and the part
is the end of the source wherever no mark follows it. -/
lemma keepsApart_wrap {q : Char} {source u a w : Text} (hne : u ≠ []) (hu : q ∉ u) (hw : q ∉ w)
    (ha : a <:+: source) (hend : w = [] → a <:+ source) : KeepsApart q source (u ++ a ++ w) where
  head := by
    cases u with
    | nil => exact absurd rfl hne
    | cons c u => exact ⟨c, fun e => hu (by simp [e]), rfl⟩
  last hl := by
    by_cases hn : w = []
    · obtain ⟨v, rfl⟩ := hend hn
      rw [hn, List.append_nil] at hl
      rw [List.getLast?_append, getLast?_append_of_not_mem hu hl, Option.some_or]
    · rw [List.getLast?_append_of_ne_nil _ hn] at hl
      exact absurd (List.mem_of_getLast? hl) hw
  inner hs := by
    have hpart : Apart q a := List.IsChain.infix hs ha
    exact .append_of_not_mem_right hw (.append_of_not_mem hu hpart)

end Pattern

open Pattern Markup

/-- The rules whose spans lie within one line. -/
def Rule.isLocal : Rule → Bool
  | monospace | citation | codeBlock | quoteBlock | tableHeader | color => false
  | _ => true

variable {q : Char} {b : Option Char} {t : Text}

lemma keepsApart_quotedLine {m : Span Text} (hq : q ∉ Rule.quotedLine.markup.toList)
    (hm : Markup.quotedLine.read b t = some m) :
    KeepsApart q m.source (quoteMark ++ m.captured) := by
  have hu : q ∉ quoteMark := fun h => hq (List.mem_of_mem_drop (i := 3) h)
  have hs : m.captured <:+ m.source := ⟨_, (quotedLine_source hm).symm⟩
  have key := keepsApart_wrap (w := []) (by simp [quoteMark]) hu List.not_mem_nil hs.isInfix
    fun _ => hs
  rwa [List.append_nil] at key

lemma keepsApart_strongSpan {m : Span Text} (hq : q ∉ Rule.strong.markup.toList)
    (hm : strongSpan.read b t = some m) :
    KeepsApart q m.source ("**".toList ++ m.captured ++ "**".toList) := by
  have hu : q ∉ "**".toList := by
    simp [Rule.markup] at hq
    simp [hq]
  obtain ⟨d, -, hs⟩ := strongSpan_source hm
  exact keepsApart_wrap (by simp) hu hu ⟨[d], [d], hs.symm⟩ (by simp)

lemma keepsApart_listItem {m : Span (Text × Text)} (hq : q ∉ Rule.list.markup.toList)
    (hm : listItem.read b t = some m) :
    KeepsApart q m.source (renderItem m.captured.1 m.captured.2) := by
  have hu : q ∉ List.replicate (listIndent m.captured.1.length).toNat ' ' ++
      itemMarker m.captured.1 ++ " ".toList := by
    simp [Rule.markup] at hq
    rw [itemMarker]
    split <;> simp [hq]
  have hs : m.captured.2 <:+ m.source := ⟨m.captured.1 ++ [' '], by simp [(listItem_source hm).2.2]⟩
  have key := keepsApart_wrap (w := []) (by simp) hu List.not_mem_nil hs.isInfix fun _ => hs
  rwa [List.append_nil] at key

lemma keepsApart_headerLine {m : Span (Nat × Text)} (hq : q ∉ Rule.header.markup.toList)
    (hm : headerLine.read b t = some m) :
    KeepsApart q m.source (List.replicate (m.captured.1 + 1) '#' ++ m.captured.2) := by
  have hu : q ∉ List.replicate (m.captured.1 + 1) '#' := by
    intro h
    rw [List.eq_of_mem_replicate h] at hq
    exact hq (by simp [Rule.markup])
  obtain ⟨d, -, hsrc⟩ := headerLine_source hm
  have hs : m.captured.2 <:+ m.source := ⟨['h', d, '.'], hsrc.symm⟩
  have key := keepsApart_wrap (w := []) (by simp) hu List.not_mem_nil hs.isInfix fun _ => hs
  rwa [List.append_nil] at key

/-- If every span is written with the same marks at its end, the text ends with another character
only if it did before. -/
lemma getLast?_replace_closed {α : Type} {pat : Pattern α} {f : α → Text} {w : Text} {x : Char}
    (hf : ∀ a, ∃ u, f a = u ++ w) (hw : w ≠ []) (hx : x ∉ w) {s : Text}
    (hs : (pat.replace f s).getLast? = some x) : s.getLast? = some x := by
  refine getLast?_replace (fun b t m _ => ?_) hs
  obtain ⟨u, hu⟩ := hf m.captured
  refine ⟨by simp [hu, hw], fun hl => ?_⟩
  rw [hu, List.getLast?_append_of_ne_nil _ hw] at hl
  exact absurd (List.mem_of_getLast? hl) hx

/-- A rule whose spans lie within one line brings only its own marks to the end of a text. -/
lemma Rule.getLast?_apply {r : Rule} {x : Char} (o : Options) (h : r.isLocal = true)
    (hx : x ∉ r.markup.toList) {s : Text} (hs : (r.apply o s).getLast? = some x) :
    s.getLast? = some x := by
  cases r with
  | quotedLine =>
    refine getLast?_replace (fun b t m hm => ?_) hs
    exact ⟨(keepsApart_quotedLine hx hm).ne_nil, (keepsApart_quotedLine hx hm).last⟩
  | strong =>
    refine getLast?_replace (fun b t m hm => ?_) hs
    exact ⟨(keepsApart_strongSpan hx hm).ne_nil, (keepsApart_strongSpan hx hm).last⟩
  | list =>
    refine getLast?_replace (fun b t m hm => ?_) hs
    exact ⟨(keepsApart_listItem hx hm).ne_nil, (keepsApart_listItem hx hm).last⟩
  | header =>
    refine getLast?_replace (fun b t m hm => ?_) hs
    exact ⟨(keepsApart_headerLine hx hm).ne_nil, (keepsApart_headerLine hx hm).last⟩
  | insert | superscript | subscript =>
    simp [markup] at hx
    exact getLast?_replace_closed (fun a => ⟨_, rfl⟩) (by simp) (by simp [hx]) hs
  | delete =>
    simp [markup] at hx
    simp only [apply, writeDeletions] at hs
    split at hs
    · exact getLast?_replace_closed (fun a => ⟨_, rfl⟩) (by simp) (by simp [hx]) hs
    · exact getLast?_replace_closed (fun a => ⟨_, rfl⟩) (by simp) (by simp [hx]) hs
  | image =>
    simp [markup] at hx
    exact getLast?_replace_closed (fun a => ⟨_, rfl⟩) (by simp) (by simp [hx]) hs
  | link =>
    simp [markup] at hx
    have piped : (convertPipedLinks s).getLast? = some x :=
      getLast?_replace_closed (fun a => ⟨_, rfl⟩) (by simp) (by simp [hx]) hs
    exact getLast?_replace_closed (fun a => ⟨_, rfl⟩) (by simp) (by simp [hx]) piped
  | noFormat =>
    simp [markup] at hx
    exact getLast?_replace_closed (w := fence) (fun _ => ⟨[], rfl⟩) (by simp [fence])
      (by simp [fence, hx]) hs
  | monospace | citation | codeBlock | quoteBlock | tableHeader | color => cases h

/-- The rules for lines and strong text bring no two equal characters together, except their own
marks. -/
lemma Rule.apart_apply {r : Rule} (o : Options)
    (h : r = quotedLine ∨ r = strong ∨ r = list ∨ r = header) (hq : q ∉ r.markup.toList)
    {s : Text} (hs : Apart q s) : Apart q (r.apply o s) := by
  rcases h with rfl | rfl | rfl | rfl
  · exact apart_replace (fun b t m hm => keepsApart_quotedLine hq hm) hs
  · exact apart_replace (fun b t m hm => keepsApart_strongSpan hq hm) hs
  · exact apart_replace (fun b t m hm => keepsApart_listItem hq hm) hs
  · exact apart_replace (fun b t m hm => keepsApart_headerLine hq hm) hs

end Wikidown
