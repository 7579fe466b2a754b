import Wikidown.Proofs.Enclosed
import Wikidown.Proofs.QuoteLines
import Wikidown.Proofs.Segments

/-!
# Quotes by turns

The quote markers of a text cut it into pieces, and the pieces are outside and inside of a quote by
turns. What is inside is written line by line; a last marker that no other one closes is text
(`writeQuoteBlocks_pieces`).
-/

namespace Wikidown

namespace Text

variable {m s p : Text}

lemma splitAt_ne_nil (m s : Text) : splitAt m s ≠ [] := by
  fun_cases splitAt m s <;> simp

/-- The pieces with the marker between two of them are the text that was cut. -/
lemma intercalate_splitAt (m s : Text) : m.intercalate (splitAt m s) = s := by
  fun_induction splitAt m s with
  | case1 s => exact List.intercalate_singleton
  | case2 s hm hcut => exact List.intercalate_singleton
  | case3 s hm a r hcut hlt ih =>
    rw [List.intercalate_cons_of_ne_nil (splitAt_ne_nil m r), ih, cut?_eq_some hcut]

/-- No piece holds the marker. -/
lemma not_isInfix_of_mem_splitAt (hm : m ≠ []) (hp : p ∈ splitAt m s) : ¬ m <:+: p := by
  fun_induction splitAt m s with
  | case1 s hnil => exact absurd hnil hm
  | case2 s _ hcut =>
    rw [List.mem_singleton.1 hp, ← isSome_cut?_iff hm, hcut]
    simp
  | case3 s _ a r hcut _ ih =>
    rcases List.mem_cons.1 hp with rfl | hp
    · exact not_isInfix_of_cut? hm hcut
    · exact ih hp

end Text

namespace Markup

open Pattern Text

variable {b : Option Char} {p r s : Text}

/-- The content of a quote, line by line, each with a quote mark. -/
def quoted (content : Text) : Text :=
  unlines ((keptLines (lines content)).map fun l => quoteMark ++ l)

/-- Pieces between quote markers, where every second one is the content of a quote as long as
another piece follows it. -/
def quotedByTurns : List Text → Text
  | p :: c :: q :: ps => p ++ quoted c ++ quotedByTurns (q :: ps)
  | ps => quoteMarker.intercalate ps

lemma quotedByTurns_cons_cons {c : Text} {ps : List Text} (h : ps ≠ []) :
    quotedByTurns (p :: c :: ps) = p ++ quoted c ++ quotedByTurns ps := by
  obtain ⟨q, ps, rfl⟩ := List.exists_cons_of_ne_nil h
  rfl

/-- Behind a quote marker, a quote reaches up to the next one. -/
lemma read_quoteMarker : quoteBlock.read b (quoteMarker ++ r) =
    (cut? quoteMarker r).map fun (c, t) => ⟨quoteMarker ++ c ++ quoteMarker, c, t⟩ := by
  have hmarker : quoteMarker = "\x7bquote\x7d".toList := rfl
  simp only [hmarker, quoteBlock, after?_append, Option.bind_some]

lemma exists_quoteMarker_of_read {m : Span Text} (h : quoteBlock.read b s = some m) :
    ∃ w, w = quoteMarker ∧ w <+: s := by
  have hsource : m.source = quoteMarker ++ m.captured ++ quoteMarker := quoteBlock_source h
  refine ⟨quoteMarker, rfl, ?_⟩
  rw [← source_append_rest h, hsource, List.append_assoc, List.append_assoc]
  exact List.prefix_append _ _

/-- Text without a quote marker stays as it is in front of a marker and at the end. -/
lemma rewrites_piece (h : ¬ quoteMarker <:+: p) (hr : r = [] ∨ quoteMarker <+: r) :
    quoteBlock.Rewrites renderQuote b p p r := by
  refine rewrites_of_avoids (W := (· = quoteMarker)) (fun _ _ _ => exists_quoteMarker_of_read) ?_
  refine .of_not_isInfix (fun w hw => hw ▸ List.prefix_refl w) h fun c hc => ?_
  rcases hr with rfl | ⟨t, rfl⟩
  · cases hc
  · obtain rfl : '\x7b' = c := Option.some.inj hc
    decide

/-- A quote marker that no other one follows is text. -/
lemma rewrite_unclosed (h : cut? quoteMarker r = none) :
    quoteBlock.rewrite renderQuote b (quoteMarker ++ r) = quoteMarker ++ r := by
  have hnone : quoteBlock.read b (quoteMarker ++ r) = none := by
    rw [read_quoteMarker, h, Option.map_none]
  have hr : ¬ quoteMarker <:+: r := by
    rw [← isSome_cut?_iff (by decide), h]
    simp
  have hmarker : quoteBlock.Rewrites renderQuote b quoteMarker quoteMarker r :=
    opensWith_quoteBlock.rewrites_cons (by decide) hnone
  have hrest : quoteBlock.Rewrites renderQuote (quoteMarker.getLast?.or b) r r [] :=
    rewrites_piece hr (.inl rfl)
  exact hmarker.rewrite_eq hrest.rewrite_eq_of_nil

lemma rewrite_quoteBlock (b : Option Char) (s : Text) :
    quoteBlock.rewrite renderQuote b s = quotedByTurns (splitAt quoteMarker s) := by
  have hne : quoteMarker ≠ [] := by decide
  -- a step passes over two markers
  induction hn : s.length using Nat.strongRecOn generalizing b s with
  | ind n ih =>
    cases hcut : cut? quoteMarker s with
    | none =>
      have hs : ¬ quoteMarker <:+: s := by
        rw [← isSome_cut?_iff hne, hcut]
        simp
      have hself : quoteBlock.Rewrites renderQuote b s s [] := rewrites_piece hs (.inl rfl)
      rw [splitAt_of_cut?_eq_none hcut, hself.rewrite_eq_of_nil]
      exact List.intercalate_singleton.symm
    | some piece =>
      obtain ⟨p, r⟩ := piece
      obtain rfl : s = p ++ (quoteMarker ++ r) := by rw [cut?_eq_some hcut, List.append_assoc]
      have hp : quoteBlock.Rewrites renderQuote b p p (quoteMarker ++ r) :=
        rewrites_piece (not_isInfix_of_cut? hne hcut) (.inr (List.prefix_append _ _))
      rw [splitAt_of_cut?_eq_some hne hcut, hp]
      cases hclose : cut? quoteMarker r with
      | none =>
        rw [splitAt_of_cut?_eq_none hclose, rewrite_unclosed hclose]
        simp [quotedByTurns, List.intercalate]
      | some content =>
        obtain ⟨c, t⟩ := content
        have hread := read_quoteMarker (b := p.getLast?.or b) (r := r)
        rw [hclose, Option.map_some] at hread
        have hlt : t.length < n := by
          have hr := length_lt_of_cut? hne hclose
          have hs := length_lt_of_cut? hne hcut
          omega
        rw [splitAt_of_cut?_eq_some hne hclose, quotedByTurns_cons_cons (splitAt_ne_nil _ _),
          rewrite_span hread, ih t.length hlt _ t rfl, renderQuote, quoteLines_eq,
          List.append_assoc]
        rfl

end Markup

open Markup

/-- The quote markers cut a text into pieces without markers, and quotes are written by turns: the
second piece, the fourth and so on, line by line, as long as another marker follows. -/
theorem writeQuoteBlocks_pieces (s : Text) :
    quoteMarker.intercalate (Text.splitAt quoteMarker s) = s ∧
      (∀ p ∈ Text.splitAt quoteMarker s, ¬ quoteMarker <:+: p) ∧
        writeQuoteBlocks s = quotedByTurns (Text.splitAt quoteMarker s) :=
  ⟨Text.intercalate_splitAt quoteMarker s,
    fun _ hp => Text.not_isInfix_of_mem_splitAt (by decide) hp, rewrite_quoteBlock none s⟩

/-- A quote with a break of each kind, and a marker that no other one follows. -/
example : writeQuoteBlocks "a\x7bquote\x7d\r\nb\r\n\n\x7bquote\x7dc\x7bquote\x7dd".toList =
    "a> bc\x7bquote\x7dd".toList := by
  decide +kernel

end Wikidown
