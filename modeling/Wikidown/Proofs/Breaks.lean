import Wikidown.Proofs.Returns

/-!
# Line breaks do not matter

`SameBreaks s t` says that `t` is `s` with each break of a carriage return and a line feed written
as a line feed, and that `s` has no other carriage returns. All rules keep the relation: those that
read one line because they leave a carriage return at the end of the line (`Returns`), the others
because their markers hold no breaks and what stands between the markers may (`SameBreaks.replace`).
The table rule then writes both texts alike, and no carriage return is left
(`convert_unifyBreaks`).
-/

namespace Wikidown

/-- The second text is the first one with its breaks unified, and the first one has no carriage
returns but those of its breaks. -/
inductive SameBreaks : Text → Text → Prop where
  | nil : SameBreaks [] []
  | cons {c s t} :
    c ≠ '\r' →
    SameBreaks s t →
    SameBreaks (c :: s) (c :: t)
  | crlf {s t} :
    SameBreaks s t →
    SameBreaks ('\r' :: '\n' :: s) ('\n' :: t)

section Rel

variable {α β γ δ : Type} {r : α → β → Prop} {r' : γ → δ → Prop} {x : Option α} {y : Option β}

lemma rel_map {f : α → γ} {g : β → δ} (h : Option.Rel r x y)
    (hfg : ∀ a b, r a b → r' (f a) (g b)) : Option.Rel r' (x.map f) (y.map g) := by
  cases h with
  | none => exact .none
  | some h => exact .some (hfg _ _ h)

lemma rel_bind {f : α → Option γ} {g : β → Option δ} (h : Option.Rel r x y)
    (hfg : ∀ a b, r a b → Option.Rel r' (f a) (g b)) : Option.Rel r' (x.bind f) (y.bind g) := by
  cases h with
  | none => exact .none
  | some h => exact hfg _ _ h

lemma rel_filter {p : α → Bool} {q : β → Bool} (h : Option.Rel r x y)
    (hpq : ∀ a b, r a b → p a = q b) : Option.Rel r (x.filter p) (y.filter q) := by
  cases h with
  | none => exact .none
  | @some a b h =>
    have hab := hpq a b h
    cases hp : p a with
    | false =>
      rw [hp] at hab
      simp [Option.filter, hp, ← hab]
    | true =>
      rw [hp] at hab
      simpa [Option.filter, hp, ← hab] using Option.Rel.some h

end Rel

namespace SameBreaks

variable {s t s' t' : Text}

lemma refl (h : '\r' ∉ s) : SameBreaks s s := by
  induction s with
  | nil => exact .nil
  | cons c s ih =>
    obtain ⟨hc, hs⟩ : '\r' ≠ c ∧ '\r' ∉ s := by simpa using h
    exact .cons hc.symm (ih hs)

lemma append (h : SameBreaks s t) (h' : SameBreaks s' t') : SameBreaks (s ++ s') (t ++ t') := by
  induction h with
  | nil => exact h'
  | cons hc _ ih => exact .cons hc ih
  | crlf _ ih => exact .crlf ih

lemma not_mem (h : SameBreaks s t) : '\r' ∉ t := by
  induction h with
  | nil => simp
  | cons hc _ ih => simp [hc.symm, ih]
  | crlf _ ih => simp [ih]

lemma eq_unifyBreaks (h : SameBreaks s t) : Text.unifyBreaks s = t := by
  induction h with
  | nil => rfl
  | cons hc _ ih => rw [Text.unifyBreaks_cons fun e => absurd e hc, ih]
  | crlf _ ih => rw [Text.unifyBreaks_break, ih]

/-- Two such texts have the same lines. -/
lemma lines_eq (h : SameBreaks s t) : Text.lines s = Text.lines t := by
  rw [Text.lines, Text.lines, h.eq_unifyBreaks, (refl h.not_mem).eq_unifyBreaks]

/-- A text is related to its unified form if each of its carriage returns stands in a break. -/
lemma of_forall (h : ∀ u v, s = u ++ '\r' :: v → ∃ w, v = '\n' :: w) :
    SameBreaks s (Text.unifyBreaks s) := by
  induction s using Text.unifyBreaks.induct with
  | case1 => exact .nil
  | case2 s ih =>
    rw [Text.unifyBreaks_break]
    exact .crlf (ih fun u v e => h ('\r' :: '\n' :: u) v (by simp [e]))
  | case3 c s hbreak ih =>
    have hc : c ≠ '\r' := by
      rintro rfl
      obtain ⟨w, rfl⟩ := h [] s rfl
      exact hbreak w rfl rfl
    rw [Text.unifyBreaks_cons fun e => absurd e hc]
    exact .cons hc (ih fun u v e => h (c :: u) v (by simp [e]))

/-! ## Rules for one line -/

/-- What a rule does between the breaks is the same on both sides. -/
lemma apply_of_isLocal {r : Rule} (o : Options) (hl : r.isLocal = true)
    (hr : '\r' ∉ r.markup.toList) (h : SameBreaks s t) :
    SameBreaks (r.apply o s) (r.apply o t) := by
  -- what was read since the last carriage return is kept in front, until the next one parts it off
  suffices key : ∀ a : Text, '\r' ∉ a → SameBreaks (r.apply o (a ++ s)) (r.apply o (a ++ t)) from
    key [] (by simp)
  induction h with
  | nil =>
    intro a ha
    rw [List.append_nil]
    exact .refl fun e => ha ((Rule.mem_apply_iff o hr a).1 e)
  | @cons c s t hc _ ih =>
    intro a ha
    have hac : '\r' ∉ a ++ [c] := by simp [ha, hc.symm]
    simpa using ih (a ++ [c]) hac
  | @crlf s t _ ih =>
    intro a ha
    rw [Rule.apply_append_crlf o hl, Rule.apply_append_break o hl]
    have hrest : SameBreaks (r.apply o s) (r.apply o t) := ih [] (by simp)
    exact append (.refl fun e => ha ((Rule.mem_apply_iff o hr a).1 e)) (.crlf hrest)

/-! ## Rules whose spans reach over lines -/

lemma after? {m : Text} (hr : '\r' ∉ m) (hn : '\n' ∉ m) (h : SameBreaks s t) :
    Option.Rel SameBreaks (Text.after? m s) (Text.after? m t) := by
  induction m generalizing s t with
  | nil => exact .some h
  | cons a m ih =>
    obtain ⟨har, hmr⟩ : '\r' ≠ a ∧ '\r' ∉ m := by simpa using hr
    obtain ⟨han, hmn⟩ : '\n' ≠ a ∧ '\n' ∉ m := by simpa using hn
    cases h with
    | nil => exact .none
    | @cons c _ _ _ h =>
      by_cases hc : a = c
      · simpa [Text.after?, hc] using ih hmr hmn h
      · simp [Text.after?, hc]
    | crlf h => simp [Text.after?, har.symm, han.symm]

lemma cut? {m : Text} (hne : m ≠ []) (hr : '\r' ∉ m) (hn : '\n' ∉ m) (h : SameBreaks s t) :
    Option.Rel (fun p q => SameBreaks p.1 q.1 ∧ SameBreaks p.2 q.2) (Text.cut? m s)
      (Text.cut? m t) := by
  induction h with
  | nil => simp [Text.cut?, hne]
  | @cons c s t hc h ih =>
    have ha := (SameBreaks.cons hc h).after? hr hn
    simp only [Text.cut?]
    cases hs : Text.after? m (c :: s) <;> cases ht : Text.after? m (c :: t) <;> rw [hs, ht] at ha
    · exact rel_map ih fun p q h => ⟨.cons hc h.1, h.2⟩
    · cases ha
    · cases ha
    · cases ha with
      | some h => exact .some ⟨.nil, h⟩
  | @crlf s t h ih =>
    obtain ⟨a, m, rfl⟩ := List.exists_cons_of_ne_nil hne
    obtain ⟨har, -⟩ : '\r' ≠ a ∧ '\r' ∉ m := by simpa using hr
    obtain ⟨han, -⟩ : '\n' ≠ a ∧ '\n' ∉ m := by simpa using hn
    simp only [Text.cut?, Text.after?, har.symm, han.symm, if_false]
    rw [Option.map_map]
    exact rel_map ih fun p q h => ⟨.crlf h.1, h.2⟩

/-- A run that may hold breaks ends at the same place. -/
lemma run {p : Char → Bool} (hr : p '\r' = true) (hn : p '\n' = true) (h : SameBreaks s t) :
    SameBreaks (s.takeWhile p) (t.takeWhile p) ∧ SameBreaks (s.dropWhile p) (t.dropWhile p) := by
  induction h with
  | nil => exact ⟨.nil, .nil⟩
  | @cons c s t hc h ih =>
    cases hp : p c with
    | true => simpa [hp] using ⟨.cons hc ih.1, ih.2⟩
    | false => simpa [hp] using ⟨.nil, .cons hc h⟩
  | crlf h ih => simpa [hr, hn] using ⟨.crlf ih.1, ih.2⟩

lemma isEmpty_eq (h : SameBreaks s t) : s.isEmpty = t.isEmpty := by
  cases h <;> rfl

/-- If a pattern reads related spans in related texts and none of them begins with a break, the
replacements are related. -/
lemma replace {α : Type} {pat : Pattern α} {f : α → Text} {R : α → α → Prop}
    (hf : ∀ a a', R a a' → SameBreaks (f a) (f a'))
    (hbreak : ∀ b c u, c = '\r' ∨ c = '\n' → pat.read b (c :: u) = none)
    (hread : ∀ b b' s t, SameBreaks s t →
      Option.Rel (fun m m' => R m.captured m'.captured ∧ SameBreaks m.rest m'.rest) (pat.read b s)
        (pat.read b' t))
    (h : SameBreaks s t) : SameBreaks (pat.replace f s) (pat.replace f t) := by
  rw [Pattern.replace_eq_rewrite, Pattern.replace_eq_rewrite]
  suffices key : ∀ b b', SameBreaks (pat.rewrite f b s) (pat.rewrite f b' t) from key none none
  intro b b'
  induction b, s using Pattern.readInduction pat generalizing b' t with
  | nil b =>
    cases h
    simpa using .nil
  | plain b c s hs ih =>
    have hrel := hread b b' _ _ h
    cases h with
    | @cons _ _ t hc h =>
      have ht : pat.read b' (c :: t) = none := by
        rw [hs] at hrel
        cases hr : pat.read b' (c :: t) with
        | none => rfl
        | some m => rw [hr] at hrel; cases hrel
      rw [Pattern.rewrite_plain hs, Pattern.rewrite_plain ht]
      exact .cons hc (ih h _)
    | @crlf s t h =>
      -- the line feeds are read alike, and the carriage return in front of one of them is kept
      have hs' : pat.read (some '\r') ('\n' :: s) = none := hbreak _ _ _ (.inr rfl)
      have ht : pat.read b' ('\n' :: t) = none := hbreak _ _ _ (.inr rfl)
      have key := ih (.cons (by decide) h) b'
      rw [Pattern.rewrite_plain hs', Pattern.rewrite_plain ht] at key
      rw [Pattern.rewrite_plain hs, Pattern.rewrite_plain hs', Pattern.rewrite_plain ht]
      cases key with
      | cons _ key => exact .crlf key
  | span b s m hs ih =>
    have hrel := hread b b' _ _ h
    rw [hs] at hrel
    cases ht : pat.read b' t with
    | none => rw [ht] at hrel; cases hrel
    | some m' =>
      rw [ht] at hrel
      cases hrel with
      | some hrel =>
        rw [Pattern.rewrite_span hs, Pattern.rewrite_span ht]
        exact append (hf _ _ hrel.1) (ih hrel.2 _)

/-- A run that holds no breaks is the same. -/
lemma run_eq {p : Char → Bool} (hr : p '\r' = false) (hn : p '\n' = false) (h : SameBreaks s t) :
    s.takeWhile p = t.takeWhile p ∧ SameBreaks (s.dropWhile p) (t.dropWhile p) := by
  induction h with
  | nil => exact ⟨rfl, .nil⟩
  | @cons c s t hc h ih =>
    cases hp : p c with
    | true => simpa [hp] using ih
    | false => simpa [hp] using .cons hc h
  | crlf h ih => simpa [hr, hn] using .crlf h

lemma read_around {c : Char} {m closing : Text} {inside : Char → Bool} (hr : inside '\r' = true)
    (hn : inside '\n' = true) (hm : '\r' ∉ c :: m ∧ '\n' ∉ c :: m)
    (hc : '\r' ∉ closing ∧ '\n' ∉ closing) (b b' : Option Char) (s t : Text)
    (h : SameBreaks s t) :
    Option.Rel (fun m m' => SameBreaks m.captured m'.captured ∧ SameBreaks m.rest m'.rest)
      ((Pattern.around c m inside closing).read b s)
      ((Pattern.around c m inside closing).read b' t) := by
  refine rel_filter (rel_bind (h.after? hm.1 hm.2) fun u u' hu => ?_) fun m m' hm => ?_
  · obtain ⟨htake, hdrop⟩ := hu.run hr hn
    exact rel_map (hdrop.after? hc.1 hc.2) fun r r' hr => ⟨htake, hr⟩
  · simp [hm.1.isEmpty_eq]

lemma writeMonospace (h : SameBreaks s t) :
    SameBreaks (Markup.writeMonospace s) (Markup.writeMonospace t) := by
  refine replace (R := SameBreaks) (fun a a' ha => ?_) (fun b c u hc => ?_) ?_ h
  · exact append (append (.refl (by simp)) ha) (.refl (by simp))
  · exact Pattern.opensWith_around.read_eq_none (by rcases hc with rfl | rfl <;> decide) b u
  · exact read_around rfl rfl (by simp) (by simp)

lemma writeCitations (h : SameBreaks s t) :
    SameBreaks (Markup.writeCitations s) (Markup.writeCitations t) := by
  refine replace (R := SameBreaks) (fun a a' ha => ?_) (fun b c u hc => ?_) ?_ h
  · simp only [Markup.element, List.append_assoc]
    exact append (.refl (by simp)) (append (.refl (by simp)) (append (.refl (by simp))
      (append ha (.refl (by simp)))))
  · exact Pattern.opensWith_around.read_eq_none (by rcases hc with rfl | rfl <;> decide) b u
  · exact read_around rfl rfl (by simp) (by simp)

/-- The languages named in related texts are the same, and hold no carriage return. -/
lemma codeOpening? (h : SameBreaks s t) :
    Option.Rel (fun p q => p.1 = q.1 ∧ '\r' ∉ p.1 ∧ SameBreaks p.2.2 q.2.2) (Markup.codeOpening? s)
      (Markup.codeOpening? t) := by
  refine rel_bind (h.after? (by simp) (by simp)) fun u u' hu => ?_
  have hclose := hu.after? (m := "\x7d".toList) (by simp) (by simp)
  cases hs : Text.after? "\x7d".toList u <;> cases ht : Text.after? "\x7d".toList u' <;>
    rw [hs, ht] at hclose
  · refine rel_bind (hu.after? (by simp) (by simp)) fun v v' hv => ?_
    obtain ⟨hl, hrest⟩ := hv.run_eq (p := Markup.isLanguageChar) rfl rfl
    simp only [hl]
    split
    · exact .none
    · refine rel_map (hrest.after? (by simp) (by simp)) fun r r' hr => ⟨rfl, fun hmem => ?_, hr⟩
      have := List.all_eq_true.1 List.all_takeWhile _ hmem
      cases this
  · cases hclose
  · cases hclose
  · cases hclose with
    | some h => exact .some ⟨rfl, by simp, h⟩

lemma writeCodeBlocks (h : SameBreaks s t) :
    SameBreaks (Markup.writeCodeBlocks s) (Markup.writeCodeBlocks t) := by
  refine replace (R := fun a a' => a.1 = a'.1 ∧ '\r' ∉ a.1 ∧ SameBreaks a.2 a'.2)
    (fun a a' ha => ?_) (fun b c u hc => ?_) (fun b b' s t h => ?_) h
  · obtain ⟨l, c⟩ := a
    obtain ⟨l', c'⟩ := a'
    obtain ⟨rfl, hl, hc⟩ := ha
    have hf : SameBreaks Markup.fence Markup.fence := .refl (by simp [Markup.fence])
    exact append (append (append hf (.refl hl)) hc) hf
  · exact Markup.opensWith_codeBlock.read_eq_none (by rcases hc with rfl | rfl <;> decide) b u
  · refine rel_bind h.codeOpening? fun p p' hp => ?_
    have hcut := hp.2.2.cut? (m := "\x7bcode\x7d".toList) (by simp) (by simp) (by simp)
    exact rel_map hcut fun q q' hq => ⟨⟨hp.1, hp.2.1, hq.1⟩, hq.2⟩

lemma dropLeadingBreak (h : SameBreaks s t) :
    SameBreaks (Markup.dropLeadingBreak s) (Markup.dropLeadingBreak t) := by
  cases h with
  | nil => exact .nil
  | @cons c s t hc h =>
    by_cases hn : c = '\n'
    · subst hn
      exact h
    · have hs : ∀ u : Text, Markup.dropLeadingBreak (c :: u) = c :: u := by
        intro u
        rw [Markup.dropLeadingBreak]
        · rintro v e
          cases e
          exact hn rfl
        · rintro v e
          cases e
          exact hc rfl
      rw [hs, hs]
      exact .cons hc h
  | crlf h => exact h

/-- A text ends with a line feed if the related one does, and without it the texts are related. -/
lemma concat_break (h : SameBreaks s (t ++ ['\n'])) :
    ∃ u, SameBreaks u t ∧ (s = u ++ ['\n'] ∧ u.getLast? ≠ some '\r' ∨ s = u ++ ['\r', '\n']) := by
  generalize e : t ++ ['\n'] = v at h
  induction h generalizing t with
  | nil => simp at e
  | @cons c s v hc h ih =>
    cases t with
    | nil =>
      cases e
      cases h
      exact ⟨[], .nil, .inl ⟨rfl, by simp⟩⟩
    | cons d t =>
      obtain ⟨rfl, ht⟩ : d = c ∧ t ++ ['\n'] = v := by simpa using e
      obtain ⟨u, hu, ⟨rfl, hl⟩ | rfl⟩ := ih ht
      · refine ⟨d :: u, .cons hc hu, .inl ⟨rfl, fun hd => ?_⟩⟩
        cases u with
        | nil => exact hc (by simpa using hd)
        | cons x u => exact hl (by simpa using hd)
      · exact ⟨d :: u, .cons hc hu, .inr rfl⟩
  | @crlf s v h ih =>
    cases t with
    | nil =>
      cases e
      cases h
      exact ⟨[], .nil, .inr rfl⟩
    | cons d t =>
      obtain ⟨rfl, ht⟩ : d = '\n' ∧ t ++ ['\n'] = v := by simpa using e
      obtain ⟨u, hu, ⟨rfl, hl⟩ | rfl⟩ := ih ht
      · refine ⟨'\r' :: '\n' :: u, .crlf hu, .inl ⟨rfl, fun hd => ?_⟩⟩
        cases u with
        | nil => simp at hd
        | cons x u => exact hl (by simpa using hd)
      · exact ⟨'\r' :: '\n' :: u, .crlf hu, .inr rfl⟩

lemma getLast?_eq (h : SameBreaks s t) : s.getLast? = t.getLast? := by
  induction h with
  | nil => rfl
  | cons _ _ ih => simp [List.getLast?_cons, ih]
  | crlf _ ih => simp [List.getLast?_cons, ih]

lemma dropTrailingBreak (h : SameBreaks s t) :
    SameBreaks (Markup.dropTrailingBreak s) (Markup.dropTrailingBreak t) := by
  by_cases ht : t.getLast? = some '\n'
  · obtain ⟨t, rfl⟩ := List.getLast?_eq_some_iff.1 ht
    have hr : '\r' ∉ t := fun e => h.not_mem (by simp [e])
    obtain ⟨u, hu, ⟨rfl, hl⟩ | rfl⟩ := h.concat_break
    · rwa [Markup.dropTrailingBreak_break hl,
        Markup.dropTrailingBreak_break fun e => hr (List.mem_of_getLast? e)]
    · rwa [Markup.dropTrailingBreak_crlf,
        Markup.dropTrailingBreak_break fun e => hr (List.mem_of_getLast? e)]
  · rwa [Markup.dropTrailingBreak_eq_self ht,
      Markup.dropTrailingBreak_eq_self (h.getLast?_eq ▸ ht)]

/-- Related quotes are written alike. -/
lemma renderQuote (h : SameBreaks s t) :
    SameBreaks (Markup.renderQuote s) (Markup.renderQuote t) := by
  have hcore := h.dropLeadingBreak.dropTrailingBreak
  have heq : Markup.renderQuote s = Markup.renderQuote t := by
    rw [Markup.renderQuote, Markup.renderQuote, Markup.quoteLines, Markup.quoteLines,
      hcore.lines_eq]
  have hr : '\r' ∉ Markup.renderQuote s := by
    have key := Markup.filter_renderQuote (p := (· == '\r')) rfl rfl rfl s
    rw [hcore.eq_unifyBreaks] at key
    exact Text.filter_beq_eq_nil_iff.1 (key.trans (Text.filter_beq_eq_nil_iff.2 hcore.not_mem))
  rw [← heq]
  exact .refl hr

lemma writeQuoteBlocks (h : SameBreaks s t) :
    SameBreaks (Markup.writeQuoteBlocks s) (Markup.writeQuoteBlocks t) := by
  refine replace (R := SameBreaks) (fun a a' => renderQuote) (fun b c u hc => ?_)
    (fun b b' s t h => ?_) h
  · exact Markup.opensWith_quoteBlock.read_eq_none (by rcases hc with rfl | rfl <;> decide) b u
  · refine rel_bind (h.after? (by simp) (by simp)) fun u u' hu => ?_
    have hcut := hu.cut? (m := "\x7bquote\x7d".toList) (by simp) (by simp) (by simp)
    exact rel_map hcut fun q q' hq => hq

/-! ## Conversions -/

/-- Up to the tables, each rule keeps texts related. -/
lemma apply_of_ne {r : Rule} (o : Options) (ht : r ≠ .tableHeader) (hc : r ≠ .color)
    (h : SameBreaks s t) : SameBreaks (r.apply o s) (r.apply o t) := by
  cases r with
  | monospace => exact h.writeMonospace
  | citation => exact h.writeCitations
  | codeBlock => exact h.writeCodeBlocks
  | quoteBlock => exact h.writeQuoteBlocks
  | tableHeader => exact absurd rfl ht
  | color => exact absurd rfl hc
  | _ => exact h.apply_of_isLocal o rfl (by simp [Rule.markup])

/-- Tables are written alike in related texts, with line feeds only. -/
lemma writeTableHeaders_eq (h : SameBreaks s t) :
    Markup.writeTableHeaders s = Markup.writeTableHeaders t ∧
      '\r' ∉ Markup.writeTableHeaders s := by
  refine ⟨by rw [Markup.writeTableHeaders, Markup.writeTableHeaders, h.lines_eq], ?_⟩
  have key := Markup.filter_writeTableHeaders (p := (· == '\r')) rfl rfl rfl s
  rw [h.eq_unifyBreaks] at key
  exact Text.filter_beq_eq_nil_iff.1 (key.trans (Text.filter_beq_eq_nil_iff.2 h.not_mem))

end SameBreaks

/-- If each carriage return of a text stands before a line feed, the text is converted as if its
lines ended in line feeds alone, and the result has no carriage returns. -/
theorem convert_unifyBreaks (o : Options) (s : Text)
    (h : ∀ u v, s = u ++ '\r' :: v → ∃ w, v = '\n' :: w) :
    convert o s = convert o (Text.unifyBreaks s) ∧ '\r' ∉ convert o s := by
  have key : SameBreaks (Rule.applyAll o (earlyRules ++ lateRules) s)
      (Rule.applyAll o (earlyRules ++ lateRules) (Text.unifyBreaks s)) := by
    refine Rule.applyAll_rel (fun r hr s t h => h.apply_of_ne o ?_ ?_) (.of_forall h)
    · rintro rfl
      exact absurd hr (by decide)
    · rintro rfl
      exact absurd hr (by decide)
  have split : ∀ t, convert o t = Rule.color.apply o (Rule.noFormat.apply o
      (Markup.writeTableHeaders (Rule.applyAll o (earlyRules ++ lateRules) t))) := fun t => rfl
  -- from the tables on both texts are the same
  obtain ⟨htables, hr⟩ := key.writeTableHeaders_eq
  refine ⟨by rw [split s, htables, ← split], ?_⟩
  rw [split s, Rule.mem_apply_iff o (by simp [Rule.markup]),
    Rule.mem_apply_iff o (by simp [Rule.markup])]
  exact hr

/-- A document whose lines end in different ways is converted as one with line feeds alone. -/
theorem convert_unifyBreaks_mixed :
    convert ⟨true⟩ "||A||\r\n-b-\nc\r\n".toList = "|A|\n|---|\n~~b~~\nc\n".toList ∧
      '\r' ∉ convert ⟨true⟩ "||A||\r\n-b-\nc\r\n".toList := by
  have paired : ∀ u v, "||A||\r\n-b-\nc\r\n".toList = u ++ '\r' :: v → ∃ w, v = '\n' :: w := by
    intro u v h
    have next : ∀ i < 14, "||A||\r\n-b-\nc\r\n".toList[i]? = some '\r' →
        "||A||\r\n-b-\nc\r\n".toList[i + 1]? = some '\n' := by decide
    have hlen := congrArg List.length h
    have hu := next u.length (by simp at hlen; omega)
    rw [h] at hu
    apply List.head?_eq_some_iff.1
    simpa [List.getElem?_append_right, List.head?_eq_getElem?] using hu
  obtain ⟨he, hr⟩ := convert_unifyBreaks ⟨true⟩ "||A||\r\n-b-\nc\r\n".toList paired
  exact ⟨he.trans (by decide +kernel), hr⟩

end Wikidown
