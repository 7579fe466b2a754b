import Wikidown.Proofs.Marks

/-!
# Text between two quote markers

The rules before that for quotes read no mark that has a part in common with a quote marker at an
end of the text (`Text.ClearAfter`, `Text.ClearBefore`), so a text between two quote markers stays
one (`Reworded.keeps_front`, `Reworded.keeps_back`). Nor do they write anything that takes part in a
quote marker or in a double bar, so what is between the markers holds such words only if it held
them before (`applyAll_enclosed`).
-/

namespace Wikidown

/-- The marker at both ends of a quote. -/
def quoteMarker : Text :=
  "\x7bquote\x7d".toList

/-- A text between two quote markers. -/
def enclosed (c : Text) : Text :=
  quoteMarker ++ (c ++ quoteMarker)

namespace Text

/-- Behind a text that begins with `w`, the mark `u` does not begin within `w`. -/
def ClearAfter (w u : Text) : Prop :=
  ∀ z ∈ w.tails, z ≠ [] → ¬ z <+: u ∧ ¬ u <+: z

/-- In front of a `w` at the end of a text, the mark `u` does not end within `w`. -/
def ClearBefore (w u : Text) : Prop :=
  ∀ z ∈ w.inits, z ≠ [] → ¬ z <:+ u ∧ ¬ u <:+ z

instance (w u : Text) : Decidable (ClearAfter w u) :=
  inferInstanceAs (Decidable (∀ z ∈ w.tails, z ≠ [] → ¬ z <+: u ∧ ¬ u <+: z))

instance (w u : Text) : Decidable (ClearBefore w u) :=
  inferInstanceAs (Decidable (∀ z ∈ w.inits, z ≠ [] → ¬ z <:+ u ∧ ¬ u <:+ z))

variable {w u v p q s : Text} {x : Char}

lemma ClearAfter.exists_append (h : ClearAfter w u) (hs : w ++ s = p ++ (u ++ q)) :
    ∃ p', p = w ++ p' ∧ s = p' ++ (u ++ q) := by
  -- `z` is the end of `w` that would lie behind the place where the mark begins
  rcases List.append_eq_append_iff.1 hs with ⟨p', rfl, rfl⟩ | ⟨z, rfl, hz⟩
  · exact ⟨p', rfl, rfl⟩
  · by_cases hne : z = []
    · subst hne
      exact ⟨[], by simp, by simpa using hz.symm⟩
    · obtain ⟨hzu, huz⟩ := h z ((List.mem_tails _ _).2 (List.suffix_append p z)) hne
      have hpre : u <+: z ++ s := ⟨q, hz⟩
      exact (List.prefix_or_prefix_of_prefix hpre (List.prefix_append z s)).elim
        (fun hp => absurd hp huz) fun hp => absurd hp hzu

lemma ClearBefore.exists_append (h : ClearBefore w u) (hs : s ++ w = p ++ (u ++ q)) :
    ∃ q', q = q' ++ w ∧ s = p ++ (u ++ q') := by
  rw [← List.append_assoc] at hs
  rcases List.append_eq_append_iff.1 hs with ⟨z, hz, rfl⟩ | ⟨q', rfl, rfl⟩
  · by_cases hne : z = []
    · subst hne
      exact ⟨[], rfl, by simpa using hz.symm⟩
    · obtain ⟨hzu, huz⟩ := h z ((List.mem_inits _ _).2 (List.prefix_append z q)) hne
      have hsuf : u <:+ s ++ z := ⟨p, hz⟩
      exact (List.suffix_or_suffix_of_suffix hsuf (List.suffix_append s z)).elim
        (fun hp => absurd hp huz) fun hp => absurd hp hzu
  · exact ⟨q', rfl, List.append_assoc _ _ _⟩

/-- How a mark begins decides whether it begins within a text in front. -/
lemma ClearAfter.of_prefix (h : ClearAfter w u) (hu : u <+: v) : ClearAfter w v := by
  intro z hz hne
  obtain ⟨hzu, huz⟩ := h z hz hne
  refine ⟨fun hzv => ?_, fun hvz => huz (hu.trans hvz)⟩
  exact (List.prefix_or_prefix_of_prefix hzv hu).elim hzu huz

/-- How a mark ends decides whether it ends within a text behind. -/
lemma ClearBefore.of_suffix (h : ClearBefore w u) (hu : u <:+ v) : ClearBefore w v := by
  intro z hz hne
  obtain ⟨hzu, huz⟩ := h z hz hne
  refine ⟨fun hzv => ?_, fun hvz => huz (hu.trans hvz)⟩
  exact (List.suffix_or_suffix_of_suffix hzv hu).elim hzu huz

lemma clear_of_apart (hu : u ≠ []) (h : ∀ x ∈ w, x ∉ u) : ClearAfter w u ∧ ClearBefore w u := by
  have key : ∀ z, z ⊆ w → z ≠ [] → ¬ z ⊆ u ∧ ¬ u ⊆ z := by
    intro z hz hne
    obtain ⟨y, t, rfl⟩ := List.exists_cons_of_ne_nil hu
    obtain ⟨x, z, rfl⟩ := List.exists_cons_of_ne_nil hne
    exact ⟨fun hs => h x (hz List.mem_cons_self) (hs List.mem_cons_self),
      fun hs => h y (hz (hs List.mem_cons_self)) List.mem_cons_self⟩
  constructor
  · intro z hz hne
    obtain ⟨hzu, huz⟩ := key z ((List.mem_tails _ _).1 hz).subset hne
    exact ⟨fun hp => hzu hp.subset, fun hp => huz hp.subset⟩
  · intro z hz hne
    obtain ⟨hzu, huz⟩ := key z ((List.mem_inits _ _).1 hz).subset hne
    exact ⟨fun hp => hzu hp.subset, fun hp => huz hp.subset⟩

/-- Two marks that begin with the same character, which comes only there, overlap only if one is the
beginning of the other. -/
lemma clearBefore_of_cons (hw : x ∉ w) (hu : x ∉ u) (h : ¬ x :: u <+: x :: w) :
    ClearBefore (x :: w) (x :: u) := by
  intro z hz hne
  have hzw : z <+: x :: w := (List.mem_inits _ _).1 hz
  obtain ⟨y, z, rfl⟩ := List.exists_cons_of_ne_nil hne
  obtain ⟨rfl, hzw'⟩ := List.cons_prefix_cons.1 hzw
  constructor
  · intro hs
    rcases List.suffix_cons_iff.1 hs with he | hs
    · exact h (he ▸ hzw)
    · exact hu (hs.subset List.mem_cons_self)
  · intro hs
    rcases List.suffix_cons_iff.1 hs with he | hs
    · exact h (he ▸ hzw)
    · exact hw (hzw'.subset (hs.subset List.mem_cons_self))

end Text

namespace Reworded

variable {W W' : Text → Text → Prop} {s t w : Text}

/-- Marks that do not begin within the front part leave it there. -/
lemma keeps_front (hW : ∀ u v, W u v → Text.ClearAfter w u) (h : Reworded W (w ++ s) t) :
    ∃ t', t = w ++ t' ∧ Reworded W s t' := by
  induction h with
  | refl => exact ⟨s, rfl, .refl⟩
  | @step p u v q _ hw ih =>
    obtain ⟨t', ht, h'⟩ := ih
    obtain ⟨p', rfl, rfl⟩ := (hW u v hw).exists_append ht.symm
    exact ⟨p' ++ (v ++ q), by simp, h'.step hw⟩

/-- Marks that do not end within the part at the end leave it there. -/
lemma keeps_back (hW : ∀ u v, W u v → Text.ClearBefore w u) (h : Reworded W (s ++ w) t) :
    ∃ t', t = t' ++ w ∧ Reworded W s t' := by
  induction h with
  | refl => exact ⟨s, rfl, .refl⟩
  | @step p u v q _ hw ih =>
    obtain ⟨t', ht, h'⟩ := ih
    obtain ⟨q', rfl, rfl⟩ := (hW u v hw).exists_append ht.symm
    exact ⟨p ++ (v ++ q'), by simp, h'.step hw⟩

/-- Marks may themselves be reworded. -/
lemma bind (hW : ∀ u v, W u v → Reworded W' u v) (h : Reworded W s t) : Reworded W' s t :=
  h.rel (fun _ => .refl) .trans
    fun p u v q hw => (refl (s := p)).append ((hW u v hw).append (refl (s := q)))

end Reworded

open Pattern Markup

variable {r : Rule} {c s u v w : Text}

/-- The marks that a rule reads lie clear of quote markers in front and behind, apart from the
closing braces of monospaced text. -/
lemma Rule.Writes.clear (hr : r ∈ Rule.before .quoteBlock) (hmono : r ≠ .monospace)
    (h : r.Writes u v) : Text.ClearAfter quoteMarker u ∧ Text.ClearBefore quoteMarker u := by
  cases h with
  | fixed hm =>
    have key : ∀ r ∈ Rule.before .quoteBlock, r ≠ .monospace → ∀ m ∈ r.rewordings,
        Text.ClearAfter quoteMarker m.1 ∧ Text.ClearBefore quoteMarker m.1 := by decide
    exact key r hr hmono _ hm
  | run hne hrun =>
    have hmarkup := ((Rule.Writes.run hne hrun).subset_markup (.inl rfl)).1
    have hapart : quoteMarker.all (!Rule.list.markup.toList.contains ·) = true := by decide
    refine Text.clear_of_apart (by simp) fun x hx hu => ?_
    have hout : x ∉ Rule.list.markup.toList := by simpa using List.all_eq_true.1 hapart x hx
    exact hout (hmarkup hu)
  | @language l hl =>
    -- the two markers begin with the only brace of their kind and go on differently
    have hfront : Text.ClearAfter quoteMarker "\x7bc".toList := by decide
    have hbrace : '\x7b' ∉ l := fun h => by cases hl _ h
    have hread : "\x7bcode:".toList ++ l ++ "\x7d".toList =
        '\x7b' :: ("code:".toList ++ l ++ "\x7d".toList) := rfl
    have hmarker : quoteMarker = '\x7b' :: "quote\x7d".toList := rfl
    have hother : ¬ '\x7b' :: ("code:".toList ++ l ++ "\x7d".toList) <+:
        '\x7b' :: "quote\x7d".toList := by
      intro h
      have hletter : 'c' = 'q' := (List.cons_prefix_cons.1 (List.cons_prefix_cons.1 h).2).1
      cases hletter
    refine ⟨hfront.of_prefix ⟨"ode:".toList ++ l ++ "\x7d".toList, rfl⟩, ?_⟩
    rw [hread, hmarker]
    exact Text.clearBefore_of_cons (by decide) (by simp [hbrace]) hother
  | quote | row => exact absurd hr (by decide)

/-- Monospaced text is written as a whole: its closing braces may stand right behind those of a
quote marker, but then no opening ones stand in front. -/
lemma exists_reworded_clear (o : Options) (hr : r ∈ Rule.before .quoteBlock) (s : Text) :
    ∃ W, Reworded W s (r.apply o s) ∧ ∀ u v, W u v →
      (Text.ClearAfter quoteMarker u ∧ Text.ClearBefore quoteMarker u) ∧ Reworded r.Writes u v := by
  by_cases hmono : r = .monospace
  · subst hmono
    refine ⟨fun u v => ∃ a, u = "\x7b\x7b".toList ++ a ++ "\x7d\x7d".toList ∧
      v = "`".toList ++ a ++ "`".toList, ?_, ?_⟩
    · exact reworded_rewrite
        (fun b t m hm => .single ⟨m.captured, around_source hm, rfl⟩) none s
    · rintro _ _ ⟨a, rfl, rfl⟩
      have hfront : Text.ClearAfter quoteMarker "\x7b\x7b".toList := by decide
      have hback : Text.ClearBefore quoteMarker "\x7d\x7d".toList := by decide
      refine ⟨⟨hfront.of_prefix ?_, hback.of_suffix (List.suffix_append _ _)⟩,
        Rule.reworded_between (by decide) (by decide)⟩
      rw [List.append_assoc]
      exact List.prefix_append _ _
  · have htable : r ≠ .tableHeader := by
      rintro rfl
      exact absurd hr (by decide)
    exact ⟨r.Writes, Rule.reworded_apply o htable s, fun u v h => ⟨h.clear hr hmono, .single h⟩⟩

/-- What a rule writes takes no part in a quote marker or a double bar. -/
lemma Rule.Writes.foreign_quoteMarker (hr : r ∈ Rule.before .quoteBlock) (h : r.Writes u v) :
    Text.foreign [quoteMarker, headerBar] v = true := by
  cases h with
  | fixed hm =>
    have key : ∀ r ∈ Rule.before .quoteBlock, ∀ m ∈ r.rewordings,
        Text.foreign [quoteMarker, headerBar] m.2 = true := by decide
    exact key r hr _ hm
  | @run run hne hrun =>
    have hmarkup := ((Rule.Writes.run hne hrun).subset_markup (.inl rfl)).2
    have hapart : ∀ w ∈ [quoteMarker, headerBar],
        w.all (!Rule.list.markup.toList.contains ·) = true := by decide
    refine Text.foreign_of_apart (by simp [renderItem]) (by decide) fun w hw x hx hv => ?_
    have hout : x ∉ Rule.list.markup.toList := by simpa using List.all_eq_true.1 (hapart w hw) x hx
    exact hout (hmarkup hv)
  | @language l hl =>
    have hbrace : '\x7b' ∉ l := fun h => by cases hl _ h
    have hbar : '|' ∉ l := fun h => by cases hl _ h
    refine Text.foreign_iff.2 ⟨rfl, Text.silent_iff.2 fun w hw => ?_⟩
    rcases List.mem_pair.1 hw with rfl | rfl
    · exact ⟨'\x7b', "quote\x7d".toList, rfl, by simp [fence, hbrace]⟩
    · exact ⟨'|', "|".toList, rfl, by simp [fence, hbar]⟩
  | quote | row => exact absurd hr (by decide)

lemma apply_enclosed (o : Options) (hr : r ∈ Rule.before .quoteBlock) (c : Text) :
    ∃ c', r.apply o (enclosed c) = enclosed c' ∧ Reworded r.Writes c c' := by
  obtain ⟨W, h, hclear⟩ := exists_reworded_clear o hr (enclosed c)
  obtain ⟨t, ht, hback⟩ := h.keeps_front fun u v hw => (hclear u v hw).1.1
  obtain ⟨c', rfl, hinner⟩ := hback.keeps_back fun u v hw => (hclear u v hw).1.2
  exact ⟨c', ht, hinner.bind fun u v hw => (hclear u v hw).2⟩

/-- When the quotes have their turn, a text between two quote markers is still one, and it holds no
quote marker and no double bar that it did not hold at first. -/
lemma applyAll_enclosed (o : Options) (c : Text) :
    ∃ c', Rule.applyAll o (Rule.before .quoteBlock) (enclosed c) = enclosed c' ∧
      ∀ w ∈ [quoteMarker, headerBar], w <:+: c' → w <:+: c := by
  have hne : ∀ w ∈ [quoteMarker, headerBar], w ≠ [] := by decide
  refine Rule.applyAll_induction (P := fun t => ∃ c', t = enclosed c' ∧
    ∀ w ∈ [quoteMarker, headerBar], w <:+: c' → w <:+: c) (fun r hr t ht => ?_)
    ⟨c, rfl, fun _ _ => id⟩
  obtain ⟨c', rfl, hc'⟩ := ht
  obtain ⟨d, hd, h⟩ := apply_enclosed o hr c'
  refine ⟨d, hd, fun w hw hin => hc' w hw ?_⟩
  rw [← Text.mem_found_iff hw (hne w hw)] at hin ⊢
  exact (h.found_sublist fun u v hw => hw.foreign_quoteMarker hr).subset hin

end Wikidown
