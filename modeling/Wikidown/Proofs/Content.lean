import Wikidown.Proofs.Lines
import Wikidown.Proofs.Runs
import Wikidown.Proofs.Spans

/-!
# Content is kept

Each rule takes away and writes characters of its own markup only (`Rule.markup`), and it leaves all
other characters in their order (`Rule.filter_apply`). No markup holds a capital letter or a
character beyond ASCII, so a conversion keeps all of these (`content_convert`).
-/

namespace Wikidown

/-- The characters that a rule may take away or write. -/
def Rule.markup : Rule → String
  | quotedLine => "bq.> "
  | strong => "*_"
  | list => "#*+- 1."
  | header => "h.#0123456"
  | monospace => "\x7b\x7d`"
  | citation => "?<cite>/"
  | insert => "+<ins>/"
  | superscript => "^<sup>/"
  | subscript => "~<sub>/"
  | delete => "-~"
  | codeBlock => "\x7bcode:\x7d`"
  | quoteBlock => "\x7bquote\x7d> \r\n"
  | image => "![]()"
  | link => "[]()|<>"
  | tableHeader => "|-\r\n"
  | noFormat => "\x7bnoformat\x7d`"
  | color => "\x7bcolor:\x7d<span style=\"\">/"

namespace Markup

open Pattern

variable {p : Char → Bool}

/-- The mark of a list run is a mark of the list rule. -/
lemma mem_markup_of_isListMark {c : Char} (h : isListMark c = true) :
    c ∈ Rule.list.markup.toList := by
  simp only [isListMark, Bool.or_eq_true, beq_iff_eq] at h
  rcases h with ((rfl | rfl) | rfl) | rfl <;> decide

/-- The digit of a header is a mark of the header rule. -/
lemma mem_markup_of_headerLevel? {d : Char} {n : Nat} (h : headerLevel? d = some n) :
    d ∈ Rule.header.markup.toList := by
  rw [headerLevel?] at h
  split at h
  · next hd =>
    have hle : 48 ≤ d.toNat ∧ d.toNat ≤ 54 := hd
    have hd : d = Char.ofNat d.toNat := (Char.ofNat_toNat d).symm
    obtain ⟨k, hk⟩ : ∃ k, d.toNat = 48 + k := ⟨d.toNat - 48, by omega⟩
    have : k < 7 := by omega
    rw [hd, hk]
    match k with
    | 0 | 1 | 2 | 3 | 4 | 5 | 6 => decide
  · cases h

/-- Spans between two markers may be written anew as long as the new form keeps what they hold. -/
lemma filter_replace_around {c : Char} {m closing : Text} {inside : Char → Bool} {f : Text → Text}
    (ho : (c :: m).filter p = []) (hc : closing.filter p = [])
    (hf : ∀ a, (f a).filter p = a.filter p) (s : Text) :
    ((around c m inside closing).replace f s).filter p = s.filter p := by
  apply filter_replace
  intro b s m hm
  rw [hf, around_source hm, List.filter_append, List.filter_append, ho, hc]
  simp

lemma filter_element (name : String) (content : Text)
    (h : ∀ x ∈ "<>/".toList ++ name.toList, p x = false) :
    (element name content).filter p = content.filter p := by
  have hn : name.toList.filter p = [] := by
    rw [List.filter_eq_nil_iff]
    intro x hx
    simp [h x (List.mem_append_right _ hx)]
  simp at h
  simp [element, h, hn]

lemma filter_run {run : Text} (h : ∀ x ∈ Rule.list.markup.toList, p x = false)
    (hrun : ∀ x ∈ run, isListMark x = true) : run.filter p = [] := by
  rw [List.filter_eq_nil_iff]
  intro x hx
  simp [h x (mem_markup_of_isListMark (hrun x hx))]

lemma filter_renderItem (run content : Text) (h : ∀ x ∈ Rule.list.markup.toList, p x = false) :
    (renderItem run content).filter p = content.filter p := by
  simp [Rule.markup] at h
  rw [renderItem, itemMarker]
  split <;> simp [h]

end Markup

open Pattern Markup

/-- A rule keeps all characters but those of its markup, in their order. -/
lemma Rule.filter_apply {p : Char → Bool} (o : Options) (r : Rule)
    (h : ∀ x ∈ r.markup.toList, p x = false) (s : Text) : (r.apply o s).filter p = s.filter p := by
  cases r with
  | quotedLine =>
    simp [markup] at h
    apply filter_replace
    intro b s m hm
    simp [quotedLine_source hm, quoteMark, h]
  | strong =>
    simp [markup] at h
    apply filter_replace
    intro b s m hm
    obtain ⟨d, rfl | rfl, hs⟩ := strongSpan_source hm <;> simp [hs, h]
  | list =>
    apply filter_replace
    intro b s m hm
    obtain ⟨-, hrun, hs⟩ := listItem_source hm
    have hb : p ' ' = false := h ' ' (by decide)
    rw [hs, List.filter_append, filter_run h hrun]
    simp [filter_renderItem _ _ h, hb]
  | header =>
    apply filter_replace
    intro b s m hm
    obtain ⟨d, hd, hs⟩ := headerLine_source hm
    have hd : p d = false := h d (mem_markup_of_headerLevel? hd)
    simp [markup] at h
    simp [hs, hd, h]
  | monospace =>
    simp [markup] at h
    exact filter_replace_around (by simp [h]) (by simp [h]) (fun a => by simp [h]) s
  | citation | insert | superscript | subscript =>
    simp [markup] at h
    exact filter_replace_around (by simp [h]) (by simp [h])
      (fun a => filter_element _ a (by simp [h])) s
  | delete =>
    simp [markup] at h
    simp only [Rule.apply, writeDeletions]
    split
    · apply filter_replace
      intro b s m hm
      simp [deletedSpan_source hm, h]
    · exact filter_replace_around (by simp [h]) (by simp [h]) (fun a => by simp [h]) s
  | codeBlock =>
    simp [markup] at h
    apply filter_replace
    intro b s m hm
    obtain ⟨op, ⟨rfl, hl⟩ | rfl, hs⟩ := codeBlock_source hm
    · simp [hs, hl, fence, h]
    · simp [hs, fence, h]
  | quoteBlock =>
    simp [markup] at h
    apply filter_replace
    intro b s m hm
    -- The breaks that the quote loses or rewrites are markup of this rule.
    have hr : p '\r' = false := by simp [h]
    have hn : p '\n' = false := by simp [h]
    rw [filter_renderQuote hn (by simp [h]) (by simp [h]), Text.filter_unifyBreaks hr,
      filter_dropTrailingBreak hr hn, filter_dropLeadingBreak hr hn]
    simp [quoteBlock_source hm, h]
  | image =>
    simp [markup] at h
    exact filter_replace_around (by simp [h]) (by simp [h]) (fun a => by simp [h]) s
  | link =>
    simp [markup] at h
    have piped : (convertPipedLinks s).filter p = s.filter p := by
      apply filter_replace
      intro b s m hm
      simp [pipedLink_source hm, h]
    rw [← piped]
    apply filter_replace
    intro b s m hm
    simp [bareLink_source hm, h]
  | tableHeader =>
    simp [markup] at h
    have key := filter_writeTableHeaders (p := p) (by simp [h]) (by simp [h]) (by simp [h]) s
    exact key.trans (Text.filter_unifyBreaks (by simp [h]) s)
  | noFormat =>
    simp [markup] at h
    apply filter_replace
    intro b s m hm
    simp [(read_marker_iff.1 hm).2, fence, h]
  | color =>
    simp [markup] at h
    apply filter_replace
    intro b s m hm
    simp [colorSpan_source hm, h]

/-- A rule neither takes away nor writes a character outside its markup. -/
lemma Rule.mem_apply_iff {r : Rule} {x : Char} (o : Options) (hx : x ∉ r.markup.toList)
    (s : Text) : x ∈ r.apply o s ↔ x ∈ s := by
  have hp : ∀ y ∈ r.markup.toList, (y == x) = false := by
    intro y hy
    simpa using ne_of_mem_of_not_mem hy hx
  have key := Rule.filter_apply o r hp s
  have hmem : ∀ t : Text, x ∈ t ↔ x ∈ t.filter (· == x) := by simp
  rw [hmem, key, ← hmem]

/-- Capital letters of ASCII and all characters beyond ASCII. No markup is made of these. -/
def isContent (c : Char) : Bool :=
  c.isUpper || 0x80 ≤ c.toNat

/-- The characters of a text that belong to no markup, in their order. -/
def content (s : Text) : Text :=
  s.filter isContent

lemma content_apply (o : Options) (r : Rule) (s : Text) : content (r.apply o s) = content s := by
  apply Rule.filter_apply
  have key : r.markup.toList.any isContent = false := by cases r <;> decide
  simpa using key

/-- No conversion loses, doubles or moves content, whatever the text. -/
theorem content_convert (o : Options) (s : Text) : content (convert o s) = content s :=
  Rule.applyAll_induction (P := fun t => content t = content s)
    (fun r _ t h => (content_apply o r t).trans h) rfl

end Wikidown
