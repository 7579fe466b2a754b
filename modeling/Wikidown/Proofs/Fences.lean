import Wikidown.Proofs.Marks

/-!
# Fences of unformatted text

Each marker of unformatted text is written as a fence of three backticks. No marker is left behind,
because neither a fence nor what the colours are written with can become part of one
(`found_replace_marker`). The rules before it read and write no part of a marker, unless they find
an opening of their own in braces, so they neither destroy markers nor put new ones together
(`found_applyAll`). In a text without these openings and without backticks all backticks are those
of the fences (`convert_noFormat`).
-/

namespace Wikidown

/-- The marker of unformatted text. -/
def noFormatMark : Text :=
  "\x7bnoformat\x7d".toList

namespace Text

variable {c : Char} {m : Text}

/-- A marker whose first character does not come again is found at its own place only. -/
lemma found_marker_append (hc : c ∉ m) (s : Text) :
    found [c :: m] (c :: m ++ s) = (c :: m) :: found [c :: m] s := by
  have hsilent : silent [c :: m] m = true := silent_iff.2 fun w hw => by
    obtain rfl := List.mem_singleton.1 hw
    exact ⟨c, m, rfl, hc⟩
  have hhere : (c :: m) <+: c :: (m ++ s) := List.prefix_append (c :: m) s
  rw [List.cons_append, found, found_append_of_silent hsilent]
  simp [hhere]

/-- If no word more is found with a text in front, none is found in front. -/
lemma found_eq_nil_of_append {ws : List Text} {a s : Text} (h : found ws (a ++ s) = found ws s) :
    found ws a = [] := by
  have hle := (found_append_sublist ws a s).length_le
  rw [h, List.length_append] at hle
  exact List.length_eq_zero_iff.1 (by omega)

end Text

namespace Pattern

variable {c x : Char} {m v : Text} {b : Option Char} {t : Text}

lemma found_of_read_marker_eq_none (h : (marker c m).read b (x :: t) = none) :
    Text.found [c :: m] (x :: t) = Text.found [c :: m] t := by
  have hno : ¬ c :: m <+: x :: t := by
    rintro ⟨r, hr⟩
    have hread : (marker c m).read b (x :: t) = some ⟨c :: m, (), r⟩ :=
      read_marker_iff.2 ⟨hr.symm, rfl⟩
    rw [h] at hread
    cases hread
  rw [Text.found]
  simp [hno]

/-- No marker is left where all are replaced by a text that takes no part in one. -/
lemma found_replace_marker (hv : Text.foreign [c :: m] v = true) (s : Text) :
    Text.found [c :: m] ((marker c m).replace (fun _ => v) s) = [] := by
  -- the text in front is what has been passed over since the last marker
  suffices key : ∀ b a, Text.found [c :: m] (a ++ s) = Text.found [c :: m] s →
      Text.found [c :: m] (a ++ (marker c m).rewrite (fun _ => v) b s) = [] from key none [] rfl
  intro b
  induction b, s using readInduction (marker c m) with
  | nil b => exact fun a h => by simpa [Text.found] using h
  | plain b x t hr ih =>
    intro a h
    have hstep := ih (a ++ [x])
    rw [List.append_assoc, List.append_assoc] at hstep
    rw [rewrite_plain hr]
    exact hstep (h.trans (found_of_read_marker_eq_none hr))
  | span b s p hr ih =>
    intro a h
    rw [rewrite_span hr, Text.found_append_of_foreign hv, Text.found_eq_nil_of_append h]
    exact ih [] rfl

/-- Each marker that is found is replaced. -/
lemma count_replace_marker (hc : c ∉ m) {x : Char} (hx : x ∉ c :: m) (s : Text) :
    ((marker c m).replace (fun _ => v) s).count x =
      s.count x + v.count x * (Text.found [c :: m] s).length := by
  rw [replace_eq_rewrite]
  generalize none = b
  induction b, s using readInduction (marker c m) with
  | nil b => simp [Text.found]
  | plain b y t hr ih =>
    rw [rewrite_plain hr, List.count_cons, ih, found_of_read_marker_eq_none hr, List.count_cons]
    omega
  | span b s p hr ih =>
    have hs : s = c :: m ++ p.rest := (read_marker_iff.1 hr).1
    rw [rewrite_span hr, List.count_append, ih, hs, Text.found_marker_append hc, List.count_append,
      List.count_eq_zero.2 hx, List.length_cons, Nat.mul_succ]
    omega

end Pattern

open Pattern Markup

variable {o : Options} {s w : Text}

/-- What monospaced text, code and quotes begin with. -/
def otherBraces : List Text :=
  ["\x7b\x7b".toList, "\x7bcode".toList, "\x7bquote\x7d".toList]

lemma writeMonospace_of_not_isInfix (h : ¬ "\x7b\x7b".toList <:+: s) : writeMonospace s = s :=
  replace_eq_self_of_not_isInfix (fun b t m hm => by
    rw [← source_append_rest hm, around_source hm]
    simp) h

lemma writeCodeBlocks_of_not_isInfix (h : ¬ "\x7bcode".toList <:+: s) : writeCodeBlocks s = s :=
  replace_eq_self_of_not_isInfix (fun b t m hm => by
    obtain ⟨op, ⟨rfl, -⟩ | rfl, hs⟩ := codeBlock_source hm <;>
      simp [← source_append_rest hm, hs]) h

lemma writeQuoteBlocks_of_not_isInfix (h : ¬ "\x7bquote\x7d".toList <:+: s) :
    writeQuoteBlocks s = s :=
  replace_eq_self_of_not_isInfix (fun b t m hm => by
    simp [← source_append_rest hm, quoteBlock_source hm]) h

/-- A rule that finds nothing of its own in braces keeps all words in braces, and writes no
backtick. -/
lemma found_apply_of_not_isInfix (o : Options) {r : Rule} (hr : r ∈ Rule.before .noFormat)
    (h : ∀ w ∈ otherBraces, ¬ w <:+: s) :
    (∀ w ∈ noFormatMark :: otherBraces, Text.found [w] (r.apply o s) = Text.found [w] s) ∧
      ('`' ∈ r.apply o s ↔ '`' ∈ s) := by
  by_cases hbrace : r ∈ [Rule.monospace, .codeBlock, .quoteBlock]
  · have hself : r.apply o s = s := by
      simp only [List.mem_cons, List.not_mem_nil, or_false] at hbrace
      rcases hbrace with rfl | rfl | rfl
      · exact writeMonospace_of_not_isInfix (h _ (by decide))
      · exact writeCodeBlocks_of_not_isInfix (h _ (by decide))
      · exact writeQuoteBlocks_of_not_isInfix (h _ (by decide))
    rw [hself]
    exact ⟨fun _ _ => rfl, Iff.rfl⟩
  · have key : ∀ r ∈ Rule.before .noFormat, r ∉ [Rule.monospace, .codeBlock, .quoteBlock] →
        (∀ w ∈ noFormatMark :: otherBraces, r.avoids [w] = true) ∧ '`' ∉ r.markup.toList := by
      decide
    obtain ⟨havoids, hmarkup⟩ := key r hr hbrace
    exact ⟨fun w hw => Rule.found_apply (havoids w hw) o s, Rule.mem_apply_iff o hmarkup s⟩

/-- If nothing else in braces stands in a text, its markers of unformatted text are still there when
they have their turn, and no backtick has been written. -/
lemma found_applyAll (o : Options) (h : ∀ w ∈ otherBraces, ¬ w <:+: s) :
    Text.found [noFormatMark] (Rule.applyAll o (Rule.before .noFormat) s) =
        Text.found [noFormatMark] s ∧
      ('`' ∈ Rule.applyAll o (Rule.before .noFormat) s ↔ '`' ∈ s) := by
  have hne : ∀ w ∈ otherBraces, w ≠ [] := by decide
  -- the openings are kept along with the marker: each rule needs that there are none
  have key : (∀ w ∈ noFormatMark :: otherBraces,
      Text.found [w] (Rule.applyAll o (Rule.before .noFormat) s) = Text.found [w] s) ∧
        ('`' ∈ Rule.applyAll o (Rule.before .noFormat) s ↔ '`' ∈ s) := by
    refine Rule.applyAll_induction (P := fun t =>
      (∀ w ∈ noFormatMark :: otherBraces, Text.found [w] t = Text.found [w] s) ∧
        ('`' ∈ t ↔ '`' ∈ s)) (fun r hr t ht => ?_) ⟨fun _ _ => rfl, Iff.rfl⟩
    have hbraces : ∀ w ∈ otherBraces, ¬ w <:+: t := by
      intro w hw
      rw [← Text.found_singleton_eq_nil_iff (hne w hw), ht.1 w (List.mem_cons_of_mem _ hw),
        Text.found_singleton_eq_nil_iff (hne w hw)]
      exact h w hw
    obtain ⟨hfound, hticks⟩ := found_apply_of_not_isInfix o hr hbraces
    exact ⟨fun w hw => (hfound w hw).trans (ht.1 w hw), hticks.trans ht.2⟩
  exact ⟨key.1 _ List.mem_cons_self, key.2⟩

/-- Colours write nothing that takes part in a marker. -/
lemma Rule.Writes.foreign_noFormatMark {u v : Text} (h : Rule.color.Writes u v) :
    Text.foreign [noFormatMark] v = true := by
  have key : ∀ m ∈ Rule.color.rewordings, Text.foreign [noFormatMark] m.2 = true := by decide
  exact key _ (h.mem_rewordings (by decide))

lemma convert_eq_color_writeNoFormat (o : Options) (s : Text) : convert o s =
    Rule.color.apply o (writeNoFormat (Rule.applyAll o (Rule.before .noFormat) s)) :=
  rfl

lemma not_isInfix_color_writeNoFormat (o : Options) (s : Text) :
    ¬ noFormatMark <:+: Rule.color.apply o (writeNoFormat s) := by
  have hnone : Text.found [noFormatMark] (writeNoFormat s) = [] :=
    found_replace_marker (by decide) s
  have hcolor := (Rule.reworded_apply o (r := .color) (by decide) (writeNoFormat s)).found_sublist
    fun _ _ hw => hw.foreign_noFormatMark
  rw [hnone, List.sublist_nil] at hcolor
  exact (Text.found_singleton_eq_nil_iff (by decide)).1 hcolor

lemma count_color_writeNoFormat (o : Options) (h : '`' ∉ s) :
    (Rule.color.apply o (writeNoFormat s)).count '`' =
      3 * (Text.found [noFormatMark] s).length := by
  have hfirst : '\x7b' ∉ "noformat\x7d".toList := by decide
  have hfences := count_replace_marker (v := fence) hfirst (x := '`') (by decide) s
  rw [List.count_eq_zero.2 h, Nat.zero_add] at hfences
  have hmarkup : '`' ∉ Rule.color.markup.toList := by decide
  have hkeep := Rule.filter_apply (p := (· == '`')) o .color
    (fun y hy => by simpa using ne_of_mem_of_not_mem hy hmarkup) (writeNoFormat s)
  rw [List.count_eq_length_filter, hkeep, ← List.count_eq_length_filter]
  exact hfences

/-- No marker of unformatted text is left in a converted document. Where the document holds no
backtick and nothing that monospaced text, code and quotes begin with, there are three backticks for
each of its markers. -/
theorem convert_noFormat (o : Options) (s : Text) :
    ¬ noFormatMark <:+: convert o s ∧
      ('`' ∉ s → (∀ w ∈ otherBraces, ¬ w <:+: s) →
        (convert o s).count '`' = 3 * (Text.found [noFormatMark] s).length) := by
  rw [convert_eq_color_writeNoFormat]
  refine ⟨not_isInfix_color_writeNoFormat o _, fun hticks h => ?_⟩
  obtain ⟨hfound, hmem⟩ := found_applyAll o h
  rw [count_color_writeNoFormat o (mt hmem.1 hticks), hfound]

/-- Three markers with strong text between two of them, and a part of a marker. -/
theorem convert_noFormat_three :
    ¬ noFormatMark <:+: convert ⟨true⟩
        "\x7bnoformat\x7d*a*\x7bnoformat\x7d\x7bnoformat\x7d\x7bnoform".toList ∧
      (convert ⟨true⟩
        "\x7bnoformat\x7d*a*\x7bnoformat\x7d\x7bnoformat\x7d\x7bnoform".toList).count '`' =
          3 * 3 :=
  ⟨(convert_noFormat ⟨true⟩ _).1, (convert_noFormat ⟨true⟩ _).2 (by decide) (by decide)⟩

end Wikidown
