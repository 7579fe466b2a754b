import Wikidown.Proofs.Ends

/-!
# Line locality

A pattern is line local if no span reaches over a line feed and if a line feed is to it what the
beginning and the end of the text are (`Pattern.LineLocal`). The rules that read spans of one line
have such patterns, so they treat the lines of a text one by one (`Rule.apply_append_break`).
Without braces and double question marks this holds of a whole conversion, because no rule makes
such marks from other text (`line_locality`).
-/

namespace Wikidown

namespace Pattern

variable {α : Type} {pat : Pattern α} {f : α → Text}

/-- The pattern reads the same spans whether or not `v` stands behind the text. -/
def IgnoresEnd (pat : Pattern α) (v : Text) : Prop :=
  ∀ b s, pat.read b (s ++ v) = (pat.read b s).map fun m => ⟨m.source, m.captured, m.rest ++ v⟩

/-- A line feed bounds the spans of the pattern as the ends of the text do. -/
structure LineLocal (pat : Pattern α) : Prop where
  fresh : ∀ s, pat.read (some '\n') s = pat.read none s
  extend : ∀ t, pat.IgnoresEnd ('\n' :: t)

/-- A rewriting depends on the character before the text only through the first reading. -/
lemma rewrite_congr {b b' : Option Char} {s : Text} (h : pat.read b s = pat.read b' s) :
    pat.rewrite f b s = pat.rewrite f b' s := by
  cases hr : pat.read b s with
  | some m =>
    have hr' : pat.read b' s = some m := h ▸ hr
    rw [rewrite_span hr, rewrite_span hr']
  | none =>
    cases s with
    | nil => simp
    | cons c t =>
      have hr' : pat.read b' (c :: t) = none := h ▸ hr
      rw [rewrite_plain hr, rewrite_plain hr']

lemma LineLocal.rewrite_append_break (h : pat.LineLocal) (c : Option Char) (a b : Text) :
    pat.rewrite f c (a ++ '\n' :: b) = pat.rewrite f c a ++ '\n' :: pat.rewrite f none b := by
  induction c, a using readInduction pat with
  | nil c =>
    -- no span begins with the break, and behind it reading begins as at the front of a text
    have hr : pat.read c ('\n' :: b) = none := by
      have := h.extend b c []
      rwa [read_nil] at this
    rw [List.nil_append, rewrite_plain hr, rewrite_congr (h.fresh b)]
    simp
  | plain c x t hr ih =>
    have hr' : pat.read c (x :: (t ++ '\n' :: b)) = none := by
      have := h.extend b c (x :: t)
      rwa [hr] at this
    rw [List.cons_append, rewrite_plain hr', rewrite_plain hr, ih]
    rfl
  | span c s m hr ih =>
    have hr' := h.extend b c s
    rw [hr] at hr'
    rw [rewrite_span hr', rewrite_span hr, ih, List.append_assoc]

lemma LineLocal.replace_append_break (h : pat.LineLocal) (a b : Text) :
    pat.replace f (a ++ '\n' :: b) = pat.replace f a ++ '\n' :: pat.replace f b :=
  h.rewrite_append_break none a b

/-- A character that the pattern ignores at the end stays at the end. -/
lemma IgnoresEnd.rewrite_append {x : Char} (h : pat.IgnoresEnd [x]) (b : Option Char) (s : Text) :
    pat.rewrite f b (s ++ [x]) = pat.rewrite f b s ++ [x] := by
  induction b, s using readInduction pat with
  | nil b =>
    have hr : pat.read b [x] = none := by
      have := h b []
      rwa [read_nil] at this
    rw [List.nil_append, rewrite_plain hr, rewrite_nil, rewrite_nil]
    rfl
  | plain b c t hr ih =>
    have hr' : pat.read b (c :: (t ++ [x])) = none := by
      have := h b (c :: t)
      rwa [hr] at this
    rw [List.cons_append, rewrite_plain hr', rewrite_plain hr, ih]
    rfl
  | span b s m hr ih =>
    have hr' := h b s
    rw [hr] at hr'
    rw [rewrite_span hr', rewrite_span hr, ih, List.append_assoc]

/-! ## What combined patterns ignore -/

lemma IgnoresEnd.filter {fits : Option Char → α → Text → Bool} {v : Text} (h : pat.IgnoresEnd v)
    (hr : ∀ b a r, fits b a (r ++ v) = fits b a r) : (pat.filter fits).IgnoresEnd v := by
  intro b s
  simp only [Pattern.filter, h b s]
  cases pat.read b s with
  | none => rfl
  | some m => by_cases hm : fits b m.captured m.rest <;> simp [Option.filter, hr, hm]

lemma IgnoresEnd.orElse {p q : Pattern α} {v : Text} (hp : p.IgnoresEnd v) (hq : q.IgnoresEnd v) :
    (p.orElse q).IgnoresEnd v := by
  intro b s
  simp only [Pattern.orElse, hp b s, hq b s]
  cases p.read b s <;> rfl

variable {c x : Char} {m closing t : Text} {inside : Char → Bool}

lemma ignoresEnd_marker (hx : x ∉ c :: m) : (marker c m).IgnoresEnd (x :: t) := by
  intro b s
  simp only [marker, Text.after?_append_cons hx]
  cases Text.after? (c :: m) s <;> rfl

lemma ignoresEnd_between (hm : x ∉ c :: m) (hc : x ∉ closing)
    (hi : inside x = false ∨ t = [] ∧ closing ≠ []) :
    (between c m inside closing).IgnoresEnd (x :: t) := by
  intro b s
  simp only [between, Text.after?_append_cons hm]
  cases Text.after? (c :: m) s with
  | none => rfl
  | some u =>
    simp only [Option.map_some, Option.bind_some, Text.after?_dropWhile_append hc hi]
    cases hr : Text.after? closing (u.dropWhile inside) with
    | none => rfl
    | some r => simp [Text.takeWhile_append_of_after? hi hr]

lemma ignoresEnd_around (hm : x ∉ c :: m) (hc : x ∉ closing)
    (hi : inside x = false ∨ t = [] ∧ closing ≠ []) :
    (around c m inside closing).IgnoresEnd (x :: t) :=
  (ignoresEnd_between hm hc hi).filter fun _ _ _ => rfl

lemma LineLocal.atLineStart (h : pat.LineLocal) : pat.atLineStart.LineLocal where
  fresh s := by
    simp only [Pattern.atLineStart, Pattern.filter, h.fresh]
    rfl
  extend t := (h.extend t).filter fun _ _ _ => rfl

end Pattern

namespace Markup

open Pattern

/-- What can follow a line: a line feed with further lines, or a carriage return at the end. -/
def EndsLine (x : Char) (t : Text) : Prop :=
  x = '\n' ∨ x = '\r' ∧ t = []

variable {d x : Char} {t : Text}

lemma EndsLine.not_mem (h : EndsLine x t) {m : Text} (hn : '\n' ∉ m) (hr : '\r' ∉ m) : x ∉ m := by
  rcases h with rfl | ⟨rfl, -⟩
  · exact hn
  · exact hr

lemma EndsLine.isBlank (h : EndsLine x t) : isBlank x = true := by
  rcases h with rfl | ⟨rfl, -⟩ <;> rfl

/-- A run that does not reach over a line feed ends there, or before the closing. -/
lemma EndsLine.run (h : EndsLine x t) (inside : Char → Bool) {closing : Text}
    (hi : inside '\n' = false) (hc : closing ≠ []) : inside x = false ∨ t = [] ∧ closing ≠ [] := by
  rcases h with rfl | ⟨-, ht⟩
  · exact .inl hi
  · exact .inr ⟨ht, hc⟩

lemma ignoresEnd_delimited (hn : d ≠ '\n') (hr : d ≠ '\r') (h : EndsLine x t) :
    (delimited d).IgnoresEnd (x :: t) :=
  have hd : x ∉ [d] := h.not_mem (by simp [hn.symm]) (by simp [hr.symm])
  ignoresEnd_around hd hd (h.run (lineRun d) (by simp [lineRun]) (by simp))

lemma ignoresEnd_emphasis (hn : d ≠ '\n') (hr : d ≠ '\r') (h : EndsLine x t) :
    (emphasis d).IgnoresEnd (x :: t) :=
  (ignoresEnd_delimited hn hr h).filter fun _ _ _ => rfl

lemma ignoresEnd_strongSpan (h : EndsLine x t) : strongSpan.IgnoresEnd (x :: t) :=
  (ignoresEnd_emphasis (by decide) (by decide) h).orElse
    (ignoresEnd_emphasis (by decide) (by decide) h)

/-- A deletion may be followed by the end of the line, because that is a blank. -/
lemma ignoresEnd_deletedSpan (h : EndsLine x t) : deletedSpan.IgnoresEnd (x :: t) := by
  apply (ignoresEnd_delimited (by decide) (by decide) h).filter
  intro b a r
  cases r with
  | nil => simp [h.isBlank]
  | cons c r => rfl

lemma ignoresEnd_imageSpan (h : EndsLine x t) : imageSpan.IgnoresEnd (x :: t) :=
  have hx : x ∉ ['!'] := h.not_mem (by decide) (by decide)
  ignoresEnd_around hx hx (h.run (fun c => !isBlank c && c != '!') (by decide) (by decide))

lemma ignoresEnd_bareLink (h : EndsLine x t) : bareLink.IgnoresEnd (x :: t) := by
  have ho : x ∉ ['['] := h.not_mem (by decide) (by decide)
  have hc : x ∉ "]".toList := h.not_mem (by decide) (by decide)
  apply (ignoresEnd_around ho hc (h.run isLabelChar (by decide) (by decide))).filter
  intro b a r
  cases r with
  | nil =>
    have hx : x ≠ '(' := by simpa using h.not_mem (m := ['(']) (by decide) (by decide)
    exact bne_iff_ne.2 (by simp [hx])
  | cons c r => rfl

lemma ignoresEnd_pipedLink (h : EndsLine x t) : pipedLink.IgnoresEnd (x :: t) := by
  have ho : x ∉ ['['] := h.not_mem (by decide) (by decide)
  have hb : x ∉ "|".toList := h.not_mem (by decide) (by decide)
  have hc : x ∉ "]".toList := h.not_mem (by decide) (by decide)
  have hi : isTargetChar x = false ∨ t = [] ∧ "]".toList ≠ [] :=
    h.run isTargetChar (by decide) (by decide)
  have label :
      (around '[' [] (fun c => isLabelChar c && c != '|') "|".toList).IgnoresEnd (x :: t) :=
    ignoresEnd_around ho hb (h.run (fun c => isLabelChar c && c != '|') (by decide) (by decide))
  intro b s
  simp only [pipedLink, label none s]
  cases (around '[' [] (fun c => isLabelChar c && c != '|') "|".toList).read none s with
  | none => rfl
  | some l =>
    simp only [Option.map_some, Option.bind_some, Text.after?_dropWhile_append hc hi]
    cases hr : Text.after? "]".toList (l.rest.dropWhile isTargetChar) with
    | none => split <;> split <;> rfl
    | some r =>
      rw [Text.takeWhile_append_of_after? hi hr]
      split <;> rfl

/-! ## Line local patterns -/

lemma lineLocal_quotedLine : quotedLine.LineLocal :=
  LineLocal.atLineStart
    ⟨fun _ => rfl, fun _ => ignoresEnd_between (by decide) (by decide) (.inl rfl)⟩

lemma lineLocal_listItem : listItem.LineLocal := by
  apply LineLocal.atLineStart
  refine ⟨fun _ => rfl, fun t b s => ?_⟩
  have hl : isListMark '\n' = false := rfl
  have hi : inLine '\n' = false := rfl
  have hc : '\n' ∉ " ".toList := by decide
  simp only [Text.takeWhile_append_cons hl, Text.dropWhile_append_cons hl,
    Text.after?_append_cons hc]
  split
  · rfl
  · cases Text.after? " ".toList (s.dropWhile isListMark) with
    | none => rfl
    | some u => simp [Text.takeWhile_append_cons hi, Text.dropWhile_append_cons hi]

lemma lineLocal_headerLine : headerLine.LineLocal := by
  apply LineLocal.atLineStart
  refine ⟨fun _ => rfl, fun t b s => ?_⟩
  have hi : inLine '\n' = false := rfl
  rcases s with _ | ⟨c, _ | ⟨d, _ | ⟨e, u⟩⟩⟩
  · rfl
  · simp only [List.cons_append, List.nil_append]
    split
    · next h => cases h; rfl
    · rfl
  · simp only [List.cons_append, List.nil_append]
    split
    · next h => cases h
    · rfl
  · simp only [List.cons_append]
    split
    · next h =>
      cases h
      simp only [Text.takeWhile_append_cons hi, Text.dropWhile_append_cons hi]
      cases headerLevel? d <;> rfl
    · next h =>
      split
      · next h' =>
        cases h'
        exact absurd rfl (h _ _)
      · rfl

lemma lineLocal_strongSpan : strongSpan.LineLocal :=
  ⟨fun _ => rfl, fun _ => ignoresEnd_strongSpan (.inl rfl)⟩

lemma lineLocal_delimited (hn : d ≠ '\n') (hr : d ≠ '\r') : (delimited d).LineLocal :=
  ⟨fun _ => rfl, fun _ => ignoresEnd_delimited hn hr (.inl rfl)⟩

lemma lineLocal_deletedSpan : deletedSpan.LineLocal :=
  ⟨fun _ => rfl, fun _ => ignoresEnd_deletedSpan (.inl rfl)⟩

lemma lineLocal_imageSpan : imageSpan.LineLocal :=
  ⟨fun _ => rfl, fun _ => ignoresEnd_imageSpan (.inl rfl)⟩

lemma lineLocal_pipedLink : pipedLink.LineLocal :=
  ⟨fun _ => rfl, fun _ => ignoresEnd_pipedLink (.inl rfl)⟩

lemma lineLocal_bareLink : bareLink.LineLocal :=
  ⟨fun _ => rfl, fun _ => ignoresEnd_bareLink (.inl rfl)⟩

lemma lineLocal_marker {c : Char} {m : Text} (h : '\n' ∉ c :: m) : (marker c m).LineLocal :=
  ⟨fun _ => rfl, fun _ => ignoresEnd_marker h⟩

end Markup

open Pattern Markup

/-- A rule whose spans lie within one line treats the lines of a text one by one. -/
lemma Rule.apply_append_break {r : Rule} (o : Options) (h : r.isLocal = true) (a b : Text) :
    r.apply o (a ++ '\n' :: b) = r.apply o a ++ '\n' :: r.apply o b := by
  cases r with
  | quotedLine => exact lineLocal_quotedLine.replace_append_break a b
  | strong => exact lineLocal_strongSpan.replace_append_break a b
  | list => exact lineLocal_listItem.replace_append_break a b
  | header => exact lineLocal_headerLine.replace_append_break a b
  | insert | superscript | subscript =>
    exact (lineLocal_delimited (by decide) (by decide)).replace_append_break a b
  | delete =>
    simp only [Rule.apply, writeDeletions]
    split
    · exact lineLocal_deletedSpan.replace_append_break a b
    · exact (lineLocal_delimited (by decide) (by decide)).replace_append_break a b
  | image => exact lineLocal_imageSpan.replace_append_break a b
  | link =>
    have piped : convertPipedLinks (a ++ '\n' :: b) =
        convertPipedLinks a ++ '\n' :: convertPipedLinks b :=
      lineLocal_pipedLink.replace_append_break a b
    simp only [Rule.apply, writeLinks, piped]
    exact lineLocal_bareLink.replace_append_break _ _
  | noFormat => exact (lineLocal_marker (by decide)).replace_append_break a b
  | monospace | citation | codeBlock | quoteBlock | tableHeader | color => cases h

/-! ## Rules that find nothing -/

lemma writeMonospace_eq_self {s : Text} (h : '\x7b' ∉ s) : writeMonospace s = s :=
  replace_eq_self_of_not_mem (fun _ _ _ hm => by simp [around_source hm]) h

lemma writeCodeBlocks_eq_self {s : Text} (h : '\x7b' ∉ s) : writeCodeBlocks s = s := by
  refine replace_eq_self_of_not_mem (fun _ _ _ hm => ?_) h
  obtain ⟨op, -, hs⟩ := codeBlock_source hm
  simp [hs]

lemma writeQuoteBlocks_eq_self {s : Text} (h : '\x7b' ∉ s) : writeQuoteBlocks s = s :=
  replace_eq_self_of_not_mem (fun _ _ _ hm => by simp [quoteBlock_source hm]) h

lemma writeNoFormat_eq_self {s : Text} (h : '\x7b' ∉ s) : writeNoFormat s = s :=
  replace_eq_self_of_not_mem (fun _ _ _ hm => by simp [(read_marker_iff.1 hm).2]) h

lemma writeColors_eq_self {s : Text} (h : '\x7b' ∉ s) : writeColors s = s :=
  replace_eq_self_of_not_mem (fun _ _ _ hm => by simp [colorSpan_source hm]) h

lemma writeCitations_eq_self {s : Text} (h : Apart '?' s) : writeCitations s = s := by
  apply replace_eq_self
  intro b t ht
  cases hr : citationSpan.read b t with
  | none => rfl
  | some m =>
    have hs : ['?', '?'] <:+: m.source := by
      rw [around_source hr]
      exact ⟨[], m.captured ++ "??".toList, by simp⟩
    have hm : m.source <:+: t := ⟨[], m.rest, source_append_rest hr⟩
    exact absurd (hs.trans (hm.trans ht.isInfix)) (Apart.iff_not_isInfix.1 h)

/-! ## Conversions -/

/-- Rules that treat two texts apart, and keep what lets them do so, also do so one after the
other. -/
lemma applyAll_append_break {I : Text → Text → Prop} {o : Options} {rs : List Rule}
    (step : ∀ r ∈ rs, ∀ a b, I a b →
      r.apply o (a ++ '\n' :: b) = r.apply o a ++ '\n' :: r.apply o b ∧
        I (r.apply o a) (r.apply o b))
    {a b : Text} (h : I a b) :
    Rule.applyAll o rs (a ++ '\n' :: b) = Rule.applyAll o rs a ++ '\n' :: Rule.applyAll o rs b ∧
      I (Rule.applyAll o rs a) (Rule.applyAll o rs b) := by
  induction rs generalizing a b with
  | nil => exact ⟨rfl, h⟩
  | cons r rs ih =>
    obtain ⟨he, hi⟩ := step r List.mem_cons_self a b h
    simp only [Rule.applyAll_cons, he]
    exact ih (fun r' hr => step r' (List.mem_cons_of_mem r hr)) hi

/-- A rule whose markup holds a brace finds nothing in a text without braces. -/
lemma Rule.apply_eq_self_of_not_mem {r : Rule} (o : Options) (h : '\x7b' ∈ r.markup.toList)
    {s : Text} (hs : '\x7b' ∉ s) : r.apply o s = s := by
  cases r with
  | monospace => exact writeMonospace_eq_self hs
  | codeBlock => exact writeCodeBlocks_eq_self hs
  | quoteBlock => exact writeQuoteBlocks_eq_self hs
  | noFormat => exact writeNoFormat_eq_self hs
  | color => exact writeColors_eq_self hs
  | _ => simp [markup] at h

/-- Two texts without braces, the first of which does not end with a carriage return. -/
structure Separable (a b : Text) : Prop where
  left : '\x7b' ∉ a
  right : '\x7b' ∉ b
  last : a.getLast? ≠ some '\r'

lemma Separable.not_mem {a b : Text} (h : Separable a b) : '\x7b' ∉ a ++ '\n' :: b := by
  simp [h.left, h.right]

lemma Separable.apply {r : Rule} {a b : Text} (o : Options) (hl : r.isLocal = true)
    (hb : '\x7b' ∉ r.markup.toList) (hr : '\r' ∉ r.markup.toList) (h : Separable a b) :
    r.apply o (a ++ '\n' :: b) = r.apply o a ++ '\n' :: r.apply o b ∧
      Separable (r.apply o a) (r.apply o b) := by
  refine ⟨Rule.apply_append_break o hl a b, ?_, ?_, ?_⟩
  · rw [Rule.mem_apply_iff o hb]
    exact h.left
  · rw [Rule.mem_apply_iff o hb]
    exact h.right
  · exact fun e => h.last (Rule.getLast?_apply o hl hr e)

lemma Separable.apply_of_mem {r : Rule} {a b : Text} (o : Options)
    (hb : '\x7b' ∈ r.markup.toList) (h : Separable a b) :
    r.apply o (a ++ '\n' :: b) = r.apply o a ++ '\n' :: r.apply o b ∧
      Separable (r.apply o a) (r.apply o b) := by
  rw [Rule.apply_eq_self_of_not_mem o hb h.not_mem, Rule.apply_eq_self_of_not_mem o hb h.left,
    Rule.apply_eq_self_of_not_mem o hb h.right]
  exact ⟨rfl, h⟩

/-- The rules up to the citations. -/
def earlyRules : List Rule :=
  [.quotedLine, .strong, .list, .header, .monospace, .citation]

/-- The rules between the citations and the tables. -/
def lateRules : List Rule :=
  [.insert, .superscript, .subscript, .delete, .codeBlock, .quoteBlock, .image, .link]

/-- Up to the citations, no rule brings two question marks together. -/
lemma apply_append_break_of_mem_earlyRules (o : Options) {r : Rule} (hr : r ∈ earlyRules)
    {a b : Text} (h : Separable a b ∧ Apart '?' a ∧ Apart '?' b) :
    r.apply o (a ++ '\n' :: b) = r.apply o a ++ '\n' :: r.apply o b ∧
      Separable (r.apply o a) (r.apply o b) ∧
        Apart '?' (r.apply o a) ∧ Apart '?' (r.apply o b) := by
  obtain ⟨hs, ha, hb⟩ := h
  have line : r = .quotedLine ∨ r = .strong ∨ r = .list ∨ r = .header →
      r.apply o (a ++ '\n' :: b) = r.apply o a ++ '\n' :: r.apply o b ∧
        Separable (r.apply o a) (r.apply o b) ∧
          Apart '?' (r.apply o a) ∧ Apart '?' (r.apply o b) := by
    intro hline
    have hl : r.isLocal = true := by rcases hline with rfl | rfl | rfl | rfl <;> rfl
    have hm : '\x7b' ∉ r.markup.toList ∧ '\r' ∉ r.markup.toList ∧ '?' ∉ r.markup.toList := by
      rcases hline with rfl | rfl | rfl | rfl <;> simp [Rule.markup]
    obtain ⟨he, hs'⟩ := hs.apply o hl hm.1 hm.2.1
    exact ⟨he, hs', Rule.apart_apply o hline hm.2.2 ha, Rule.apart_apply o hline hm.2.2 hb⟩
  simp only [earlyRules, List.mem_cons, List.not_mem_nil, or_false] at hr
  rcases hr with rfl | rfl | rfl | rfl | rfl | rfl
  · exact line (by simp)
  · exact line (by simp)
  · exact line (by simp)
  · exact line (by simp)
  · have hm : '\x7b' ∈ Rule.monospace.markup.toList := by simp [Rule.markup]
    obtain ⟨he, hs'⟩ := hs.apply_of_mem o hm
    rw [Rule.apply_eq_self_of_not_mem o hm hs.left,
      Rule.apply_eq_self_of_not_mem o hm hs.right] at he hs' ⊢
    exact ⟨he, hs', ha, hb⟩
  · have hb' : Apart '?' ('\n' :: b) := .append_of_not_mem (s := ['\n']) (by simp) hb
    have hab : Apart '?' (a ++ '\n' :: b) := Apart.append_iff.2 ⟨ha, hb', by simp⟩
    have he : ∀ s, Apart '?' s → Rule.citation.apply o s = s := fun s h => writeCitations_eq_self h
    rw [he a ha, he b hb, he _ hab]
    exact ⟨rfl, hs, ha, hb⟩

lemma apply_append_break_of_mem_lateRules (o : Options) {r : Rule} (hr : r ∈ lateRules)
    {a b : Text} (h : Separable a b) :
    r.apply o (a ++ '\n' :: b) = r.apply o a ++ '\n' :: r.apply o b ∧
      Separable (r.apply o a) (r.apply o b) := by
  by_cases hb : '\x7b' ∈ r.markup.toList
  · exact h.apply_of_mem o hb
  · have hl : r.isLocal = true ∧ '\r' ∉ r.markup.toList := by
      simp only [lateRules, List.mem_cons, List.not_mem_nil, or_false] at hr
      rcases hr with rfl | rfl | rfl | rfl | rfl | rfl | rfl | rfl <;>
        simp [Rule.isLocal, Rule.markup] at hb ⊢
    exact h.apply o hl.1 hb hl.2

/-- What is left to do after the tables does nothing to a text without braces. -/
lemma convert_eq_writeTableHeaders (o : Options) {s t : Text}
    (ht : t = Rule.applyAll o lateRules (Rule.applyAll o earlyRules s)) (h : '\x7b' ∉ t) :
    convert o s = writeTableHeaders t := by
  have hT : '\x7b' ∉ Rule.tableHeader.apply o t := by
    rw [Rule.mem_apply_iff o (by simp [Rule.markup])]
    exact h
  calc convert o s
      = Rule.color.apply o (Rule.noFormat.apply o (Rule.tableHeader.apply o t)) := by subst ht; rfl
    _ = Rule.color.apply o (Rule.tableHeader.apply o t) := by
        rw [Rule.apply_eq_self_of_not_mem o (by simp [Rule.markup]) hT]
    _ = Rule.tableHeader.apply o t := by
        rw [Rule.apply_eq_self_of_not_mem o (by simp [Rule.markup]) hT]

/-- Lines are converted one by one: by every rule whose spans lie within one line, and, where no
braces and no double question marks open a span over lines, by the whole conversion. -/
theorem line_locality :
    (∀ (o : Options) (r : Rule), r.isLocal = true → ∀ a b : Text,
        r.apply o (a ++ '\n' :: b) = r.apply o a ++ '\n' :: r.apply o b) ∧
      ∀ (o : Options) (a b : Text), '\x7b' ∉ a → '\x7b' ∉ b → ¬ "??".toList <:+: a →
        ¬ "??".toList <:+: b → a.getLast? ≠ some '\r' →
          convert o (a ++ '\n' :: b) = convert o a ++ '\n' :: convert o b := by
  refine ⟨fun o r h a b => Rule.apply_append_break o h a b, ?_⟩
  intro o a b ha hb hqa hqb hlast
  have h : Separable a b ∧ Apart '?' a ∧ Apart '?' b :=
    ⟨⟨ha, hb, hlast⟩, Apart.iff_not_isInfix.2 hqa, Apart.iff_not_isInfix.2 hqb⟩
  -- citations find nothing as long as question marks stand apart, so these are followed up to there
  obtain ⟨early, hsep, -, -⟩ :=
    applyAll_append_break (fun r hr a b => apply_append_break_of_mem_earlyRules o hr) h
  obtain ⟨late, hsep⟩ :=
    applyAll_append_break (fun r hr a b => apply_append_break_of_mem_lateRules o hr) hsep
  rw [← early] at late
  rw [convert_eq_writeTableHeaders o rfl hsep.left, convert_eq_writeTableHeaders o rfl hsep.right,
    convert_eq_writeTableHeaders o late.symm hsep.not_mem]
  -- the break stays one break, because no rule brings a carriage return in front of it
  exact writeTableHeaders_append_break hsep.last _

/-- Strong text left open at the end of a line does not close on the next, and a header row is
written as if it stood alone. -/
theorem line_locality_two_lines :
    Rule.strong.apply ⟨true⟩ ("*a".toList ++ '\n' :: "b*".toList) =
        "*a".toList ++ '\n' :: "b*".toList ∧
      convert ⟨true⟩ ("||A||".toList ++ '\n' :: "- b?".toList) =
        "|A|\n|---|".toList ++ '\n' :: "  - b?".toList := by
  constructor
  · have key := line_locality.1 ⟨true⟩ .strong rfl "*a".toList "b*".toList
    exact key.trans (by decide +kernel)
  · have key := line_locality.2 ⟨true⟩ "||A||".toList "- b?".toList (by decide) (by decide)
      (by decide) (by decide) (by decide)
    exact key.trans (by decide +kernel)

end Wikidown
