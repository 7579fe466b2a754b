import Wikidown.Proofs.Openers

/-!
# Addresses of links and images

An address comes to the rules for links and images after the rules for spans. Strong text, citations
and subscripts may find spans in it: `writeSpans` is what they leave of it. What stands around the
address takes no part in this (`applyAll_spanRules`), and the rules for links and images then keep
what they are given. So an address is kept exactly if none of the three marks stands in it twice
with other text between (`convert_address_iff`).
-/

namespace Wikidown

open Pattern Markup

/-! ## Pairs of marks -/

/-- The mark `m`, which is made of the character `d`, stands twice in a text with other text
between. -/
def Paired (m : Text) (d : Char) (s : Text) : Prop :=
  ∃ a w c, s = a ++ m ++ w ++ m ++ c ∧ w ≠ [] ∧ d ∉ w

/-- In the text, the pattern reads what stands between two marks `m`. -/
def ReadsPairs (pat : Pattern Text) (m : Text) (d : Char) (s : Text) : Prop :=
  ∀ b t, t <:+ s →
    ((∃ p, pat.read b t = some p) ↔ ∃ w c, t = m ++ w ++ m ++ c ∧ w ≠ [] ∧ d ∉ w)

section Pairs

variable {pat : Pattern Text} {f : Text → Text} {m s : Text} {d : Char}

lemma ReadsPairs.replace_eq_self (h : ReadsPairs pat m d s) (hs : ¬ Paired m d s) :
    pat.replace f s = s := by
  apply Pattern.replace_eq_self
  intro b t ht
  cases hr : pat.read b t with
  | none => rfl
  | some p =>
    obtain ⟨w, c, rfl, hw, hd⟩ := (h b t ht).1 ⟨p, hr⟩
    obtain ⟨a, rfl⟩ := ht
    exact absurd ⟨a, w, c, by simp, hw, hd⟩ hs

/-- A rule that makes spans longer keeps the length of a text only if it holds no pair. -/
lemma ReadsPairs.not_paired (h : ReadsPairs pat m d s) (hf : pat.Lengthens f)
    (hs : (pat.replace f s).length = s.length) : ¬ Paired m d s := by
  rintro ⟨a, w, c, rfl, hw, hd⟩
  have ht : m ++ w ++ m ++ c <:+ a ++ m ++ w ++ m ++ c := ⟨a, by simp⟩
  obtain ⟨b, hb⟩ := (hf.length_replace _).2 hs _ ht
  obtain ⟨p, hp⟩ := (h b _ ht).2 ⟨w, c, rfl, hw, hd⟩
  rw [hb] at hp
  cases hp

/-- Spans around which the mark stands on both sides are pairs, where the mark alone ends them. -/
lemma readsPairs_around {k : Text} {inside : Char → Bool} (hin : ∀ x ∈ s, inside x = (x != d))
    (hm : d :: k = m) (hd : inside d = false) : ReadsPairs (around d k inside m) m d s := by
  subst hm
  intro b t ht
  constructor
  · rintro ⟨p, hp⟩
    obtain ⟨hread, hne⟩ := read_around_iff.1 hp
    obtain ⟨rfl, hs, hp, -⟩ := read_between_iff.1 hread
    refine ⟨p.captured, p.rest, by rw [hs], hne, fun hmem => ?_⟩
    rw [hp d hmem] at hd
    cases hd
  · rintro ⟨w, c, rfl, hne, hw⟩
    refine ⟨_, read_around_of_closes hne (fun x hx => ?_) (by simp [hd])⟩
    rw [hin x (ht.subset (by simp [hx])), bne_iff_ne]
    exact ne_of_mem_of_not_mem hx hw

end Pairs

/-! ## Characters of addresses -/

/-- The characters of addresses. -/
def isAddressChar (c : Char) : Bool :=
  c.isAlphanum || ":/.-_~%=&#?".toList.contains c

/-- The characters of addresses and those that are written for spans in them. -/
def isSpanChar (c : Char) : Bool :=
  isAddressChar c || "*<>".toList.contains c

section Characters

variable {s : Text} {x : Char}

lemma isBlank_of_isAlphanum (h : x.isAlphanum = true) : isBlank x = false := by
  have hn : 48 ≤ x.toNat ∧ x.toNat ≤ 122 := by
    unfold Char.isAlphanum Char.isAlpha Char.isUpper Char.isLower Char.isDigit at h
    simp only [Bool.or_eq_true, Bool.and_eq_true, decide_eq_true_eq, ge_iff_le,
      UInt32.le_iff_toNat_le] at h
    rcases h with (⟨h1, h2⟩ | ⟨h1, h2⟩) | ⟨h1, h2⟩ <;> simp at h1 h2 <;> omega
  simp [isBlank]
  omega

lemma isBlank_of_isSpanChar (h : isSpanChar x = true) : isBlank x = false := by
  rw [isSpanChar, isAddressChar, Bool.or_assoc, Bool.or_eq_true] at h
  rcases h with h | h
  · exact isBlank_of_isAlphanum h
  · have key : (":/.-_~%=&#?".toList ++ "*<>".toList).all (!isBlank ·) = true := by decide
    have hx : x ∈ ":/.-_~%=&#?".toList ++ "*<>".toList := by
      simpa only [Bool.or_eq_true, List.contains_iff_mem, List.mem_append] using h
    simpa using List.all_eq_true.1 key x hx

/-- No rule for spans of an address writes anything else. -/
lemma isSpanChar_of_mem_apply {o : Options} {r : Rule} (hr : r.markup.toList.all isSpanChar = true)
    (hs : ∀ x ∈ s, isSpanChar x = true) : ∀ x ∈ r.apply o s, isSpanChar x = true := by
  have hkeep := Rule.filter_apply (p := fun x => !isSpanChar x) o r
    (fun x hx => by simpa using List.all_eq_true.1 hr x hx) s
  have hnil : s.filter (fun x => !isSpanChar x) = [] := by
    simpa [List.filter_eq_nil_iff] using hs
  rw [hnil, List.filter_eq_nil_iff] at hkeep
  simpa using hkeep

/-- What can be checked of the other characters. -/
lemma not_mem_of_isSpanChar (hs : ∀ x ∈ s, isSpanChar x = true) (hx : isSpanChar x = false) :
    x ∉ s := by
  intro hm
  rw [hs x hm] at hx
  cases hx

/-- The marks that may stand in an address or be written in it. -/
lemma marked_of_isSpanChar (hs : ∀ x ∈ s, isSpanChar x = true) : Marked "*_#?-~".toList s := by
  intro x hx hm
  have key : marks.all (fun x => !isSpanChar x || "*_#?-~".toList.contains x) = true := by decide
  simpa [hs x hx] using List.all_eq_true.1 key x hm

end Characters

/-! ## Spans in addresses -/

/-- What the rules for spans leave of an address. -/
def writeSpans (s : Text) : Text :=
  writeSubscripts (writeCitations (writeStrong s))

/-- No pair of underscores, question marks or tildes encloses a part of the text. -/
structure Unpaired (s : Text) : Prop where
  strong : ¬ Paired "_".toList '_' s
  citation : ¬ Paired "??".toList '?' s
  subscript : ¬ Paired "~".toList '~' s

section Spans

variable {s : Text}

lemma isSpanChar_of_isAddressChar (hs : ∀ x ∈ s, isAddressChar x = true) :
    ∀ x ∈ s, isSpanChar x = true :=
  fun x hx => by simp [isSpanChar, hs x hx]

/-- Without stars, strong text stands between underscores. -/
lemma readsPairs_strong (hs : ∀ x ∈ s, isAddressChar x = true) :
    ReadsPairs strongSpan "_".toList '_' s := by
  have hspan := isSpanChar_of_isAddressChar hs
  have hn : '\n' ∉ s := not_mem_of_isSpanChar hspan (by decide)
  have hstar : '*' ∉ s := fun hm => by cases hs _ hm
  have hlines : ReadsPairs (delimited '_') "_".toList '_' s := by
    refine readsPairs_around (fun x hx => ?_) rfl rfl
    have hx' : x ≠ '\n' := ne_of_mem_of_not_mem hx hn
    simp [lineRun, hx']
  intro b t ht
  rw [← hlines b t ht]
  have hnostar : (emphasis '*').read b t = none := by
    cases t with
    | nil => exact read_nil _ b
    | cons x t =>
      have hx : x ≠ '*' := ne_of_mem_of_not_mem (ht.subset List.mem_cons_self) hstar
      exact opensWith_emphasis.read_eq_none (by simpa using hx) b t
  constructor
  · rintro ⟨p, hp⟩
    rcases read_orElse_iff.1 hp with hp | ⟨-, hp⟩
    · rw [hnostar] at hp
      cases hp
    · exact ⟨p, (read_filter_iff.1 hp).1⟩
  · rintro ⟨p, hp⟩
    -- what stands between the underscores is ink
    have hink : startsInk p.captured = true := by
      obtain ⟨hread, hne⟩ := read_around_iff.1 hp
      obtain ⟨x, w, hw⟩ := List.exists_cons_of_ne_nil hne
      have hxs : x ∈ s := by
        apply ht.subset
        rw [← source_append_rest hread, between_source hread, hw]
        simp
      simp [startsInk, hw, isBlank_of_isSpanChar (hspan x hxs)]
    exact ⟨p, read_orElse_iff.2 (.inr ⟨hnostar, read_filter_iff.2 ⟨hp, hink⟩⟩)⟩

lemma readsPairs_citation (s : Text) : ReadsPairs citationSpan "??".toList '?' s :=
  readsPairs_around (fun _ _ => rfl) rfl rfl

lemma readsPairs_subscript (hn : '\n' ∉ s) : ReadsPairs (delimited '~') "~".toList '~' s := by
  refine readsPairs_around (fun x hx => ?_) rfl rfl
  have hx' : x ≠ '\n' := ne_of_mem_of_not_mem hx hn
  simp [lineRun, hx']

lemma lengthens_strong :
    strongSpan.Lengthens fun content => "**".toList ++ content ++ "**".toList := by
  intro b t m hm
  obtain ⟨d, -, hs⟩ := strongSpan_source hm
  simp [hs]

lemma lengthens_citation : citationSpan.Lengthens (element "cite") := by
  intro b t m hm
  simp [around_source hm, element]

lemma lengthens_subscript : (delimited '~').Lengthens (element "sub") := by
  intro b t m hm
  simp [around_source hm, element]

/-- The rules for spans keep an address exactly if it holds no pairs. -/
lemma writeSpans_eq_self_iff (hs : ∀ x ∈ s, isAddressChar x = true) :
    writeSpans s = s ↔ Unpaired s := by
  have hn : '\n' ∉ s := not_mem_of_isSpanChar (isSpanChar_of_isAddressChar hs) (by decide)
  constructor
  · intro h
    have h1 : s.length ≤ (writeStrong s).length := (lengthens_strong.length_replace s).1
    have h2 : ∀ t : Text, t.length ≤ (writeCitations t).length :=
      fun t => (lengthens_citation.length_replace t).1
    have h3 : ∀ t : Text, t.length ≤ (writeSubscripts t).length :=
      fun t => (lengthens_subscript.length_replace t).1
    -- the last text is as long as the first, so none of the rules makes it longer
    have hlen : (writeSubscripts (writeCitations (writeStrong s))).length = s.length :=
      congrArg List.length h
    have l1 : (writeStrong s).length = s.length := by
      have := h2 (writeStrong s)
      have := h3 (writeCitations (writeStrong s))
      omega
    have hstrong : ¬ Paired "_".toList '_' s :=
      (readsPairs_strong hs).not_paired lengthens_strong l1
    have e1 : writeStrong s = s := (readsPairs_strong hs).replace_eq_self hstrong
    rw [e1] at hlen
    have l2 : (writeCitations s).length = s.length := by
      have := h2 s
      have := h3 (writeCitations s)
      omega
    have hcitation : ¬ Paired "??".toList '?' s :=
      (readsPairs_citation s).not_paired lengthens_citation l2
    have e2 : writeCitations s = s := (readsPairs_citation s).replace_eq_self hcitation
    rw [e2] at hlen
    exact ⟨hstrong, hcitation, (readsPairs_subscript hn).not_paired lengthens_subscript hlen⟩
  · rintro ⟨hu, hq, ht⟩
    have e1 : writeStrong s = s := (readsPairs_strong hs).replace_eq_self hu
    have e2 : writeCitations s = s := (readsPairs_citation s).replace_eq_self hq
    have e3 : writeSubscripts s = s := (readsPairs_subscript hn).replace_eq_self ht
    rw [writeSpans, e1, e2, e3]

lemma isSpanChar_of_mem_writeSpans (hs : ∀ x ∈ s, isAddressChar x = true) :
    (∀ x ∈ writeStrong s, isSpanChar x = true) ∧
      (∀ x ∈ writeCitations (writeStrong s), isSpanChar x = true) ∧
        ∀ x ∈ writeSpans s, isSpanChar x = true := by
  have h1 : ∀ x ∈ writeStrong s, isSpanChar x = true :=
    isSpanChar_of_mem_apply (o := {}) (r := .strong) (by decide) (isSpanChar_of_isAddressChar hs)
  have h2 : ∀ x ∈ writeCitations (writeStrong s), isSpanChar x = true :=
    isSpanChar_of_mem_apply (o := {}) (r := .citation) (by decide) h1
  exact ⟨h1, h2, isSpanChar_of_mem_apply (o := {}) (r := .subscript) (by decide) h2⟩

end Spans

/-! ## An address between other text -/

/-- What stands before and after an address on its line: no marks of the rules for spans, and
nothing with which the mark of a line begins. -/
structure Frames (p : Text) (x : Char) : Prop where
  head : ∃ c q, p = c :: q ∧ beginsMark c = false
  before : '\n' ∉ p ∧ Marked "[]|!".toList p
  after : '\n' ∉ [x] ∧ Marked "[]|!".toList [x]

/-- A rule whose spans do not open in front of a text and do not close behind it sees the text
alone. -/
lemma replace_framed {α : Type} {pat : Pattern α} {f : α → Text} {cs p s : Text} {x : Char}
    (ho : pat.OpensWith cs) (hp : ∀ y ∈ p, y ∉ cs)
    (hb : ∀ b b' s, pat.read b s = pat.read b' s) (hx : pat.IgnoresEnd [x]) :
    pat.replace f (p ++ s ++ [x]) = p ++ pat.replace f s ++ [x] := by
  have hfront : pat.Rewrites f none p p s := ho.rewrites_self hp
  calc pat.replace f (p ++ s ++ [x])
      = pat.rewrite f none (p ++ s) ++ [x] := hx.rewrite_append none (p ++ s)
    _ = p ++ pat.rewrite f (p.getLast?.or none) s ++ [x] := by rw [hfront]
    _ = p ++ pat.replace f s ++ [x] := by rw [rewrite_congr (hb _ none s), ← replace_eq_rewrite]

/-- The rules up to the deletions. -/
def spanRules : List Rule :=
  [.quotedLine, .strong, .list, .header, .monospace, .citation, .insert, .superscript, .subscript,
    .delete]

namespace Frames

variable {p s : Text} {x : Char}

lemma not_mem (h : Frames p x) {y : Char} (hy : y ∈ marks) (hne : y ∉ "[]|!".toList) :
    y ∉ p ∧ y ∉ [x] :=
  ⟨fun hp => hne (h.before.2 y hp hy), fun hx => hne (h.after.2 y hx hy)⟩

lemma writeStrong (h : Frames p x) (s : Text) :
    writeStrong (p ++ s ++ [x]) = p ++ writeStrong s ++ [x] := by
  obtain ⟨hp, hx⟩ := h.not_mem (y := '*') (by decide) (by decide)
  obtain ⟨hp', hx'⟩ := h.not_mem (y := '_') (by decide) (by decide)
  refine replace_framed opensWith_strongSpan (fun y hy => ?_) (fun _ _ _ => rfl) ?_
  · simp [ne_of_mem_of_not_mem hy hp, ne_of_mem_of_not_mem hy hp']
  · have hs : x ∉ ['*'] := by simpa [eq_comm] using hx
    have hs' : x ∉ ['_'] := by simpa [eq_comm] using hx'
    exact ((ignoresEnd_around hs hs (.inr ⟨rfl, by simp⟩)).filter fun _ _ _ => rfl).orElse
      ((ignoresEnd_around hs' hs' (.inr ⟨rfl, by simp⟩)).filter fun _ _ _ => rfl)

lemma writeCitations (h : Frames p x) (s : Text) :
    writeCitations (p ++ s ++ [x]) = p ++ writeCitations s ++ [x] := by
  obtain ⟨hp, hx⟩ := h.not_mem (y := '?') (by decide) (by decide)
  refine replace_framed opensWith_around (fun y hy => ?_) (fun _ _ _ => rfl) ?_
  · simpa using ne_of_mem_of_not_mem hy hp
  · have hs : x ∉ "??".toList := by simpa [eq_comm] using hx
    exact ignoresEnd_around hs hs (.inr ⟨rfl, by simp⟩)

lemma writeSubscripts (h : Frames p x) (s : Text) :
    writeSubscripts (p ++ s ++ [x]) = p ++ writeSubscripts s ++ [x] := by
  obtain ⟨hp, hx⟩ := h.not_mem (y := '~') (by decide) (by decide)
  refine replace_framed opensWith_around (fun y hy => ?_) (fun _ _ _ => rfl) ?_
  · simpa using ne_of_mem_of_not_mem hy hp
  · have hs : x ∉ ['~'] := by simpa [eq_comm] using hx
    exact ignoresEnd_around hs hs (.inr ⟨rfl, by simp⟩)

/-- All other rules up to the deletions find nothing. -/
lemma applyAll_eq_self (h : Frames p x) (rs : List Rule) (hs : ∀ y ∈ s, isSpanChar y = true)
    (hrs : rs.all (fun r => r.takesLine || r.overlooks ("[]|!".toList ++ "*_#?-~".toList)) = true) :
    Rule.applyAll {} rs (p ++ s ++ [x]) = p ++ s ++ [x] := by
  have hmarked : Marked ("[]|!".toList ++ "*_#?-~".toList) (p ++ s ++ [x]) := by
    refine .append (.append ?_ ?_) ?_
    · exact fun y hy hm => List.mem_append_left _ (h.before.2 y hy hm)
    · exact fun y hy hm => List.mem_append_right _ (marked_of_isSpanChar hs y hy hm)
    · exact fun y hy hm => List.mem_append_left _ (h.after.2 y hy hm)
  have hn : '\n' ∉ p ++ s ++ [x] := by
    simp only [List.mem_append, not_or]
    exact ⟨⟨h.before.1, not_mem_of_isSpanChar hs (by decide)⟩, h.after.1⟩
  obtain ⟨c, q, rfl, hc⟩ := h.head
  obtain ⟨⟨hb, hh⟩, hm⟩ : (c ≠ 'b' ∧ c ≠ 'h') ∧ isListMark c = false := by
    simpa [beginsMark] using hc
  exact Rule.applyAll_eq_self_of_line hrs hmarked hn (opensLine_cons hb hh) (opensItem_cons hm)

/-- The rules up to the deletions rewrite the spans of the address and nothing around it. -/
lemma applyAll_spanRules (h : Frames p x) (hs : ∀ y ∈ s, isAddressChar y = true) :
    Rule.applyAll {} spanRules (p ++ s ++ [x]) = p ++ writeSpans s ++ [x] := by
  obtain ⟨h1, h2, h3⟩ := isSpanChar_of_mem_writeSpans hs
  have h0 := isSpanChar_of_isAddressChar hs
  calc Rule.applyAll {} spanRules (p ++ s ++ [x])
      = Rule.applyAll {} (spanRules.drop 1) (p ++ s ++ [x]) :=
        congrArg (Rule.applyAll {} (spanRules.drop 1))
          (h.applyAll_eq_self [.quotedLine] h0 (by decide))
    _ = Rule.applyAll {} (spanRules.drop 2) (p ++ Markup.writeStrong s ++ [x]) :=
        congrArg (Rule.applyAll {} (spanRules.drop 2)) (h.writeStrong s)
    _ = Rule.applyAll {} (spanRules.drop 5) (p ++ Markup.writeStrong s ++ [x]) :=
        congrArg (Rule.applyAll {} (spanRules.drop 5))
          (h.applyAll_eq_self [.list, .header, .monospace] h1 (by decide))
    _ = Rule.applyAll {} (spanRules.drop 6)
          (p ++ Markup.writeCitations (Markup.writeStrong s) ++ [x]) :=
        congrArg (Rule.applyAll {} (spanRules.drop 6)) (h.writeCitations _)
    _ = Rule.applyAll {} (spanRules.drop 8)
          (p ++ Markup.writeCitations (Markup.writeStrong s) ++ [x]) :=
        congrArg (Rule.applyAll {} (spanRules.drop 8))
          (h.applyAll_eq_self [.insert, .superscript] h2 (by decide))
    _ = Rule.applyAll {} (spanRules.drop 9) (p ++ writeSpans s ++ [x]) :=
        congrArg (Rule.applyAll {} (spanRules.drop 9)) (h.writeSubscripts _)
    _ = p ++ writeSpans s ++ [x] := writeDeletions_false _

end Frames

/-! ## Links and images -/

section Conversion

variable {label s : Text}

lemma isSpanChar_of_isAlphanum (hl : ∀ x ∈ label, x.isAlphanum = true) :
    ∀ x ∈ label, isSpanChar x = true :=
  fun x hx => by simp [isSpanChar, isAddressChar, hl x hx]

lemma marked_label {ms : Text} (hl : ∀ x ∈ label, x.isAlphanum = true) : Marked ms label := by
  intro x hx hm
  have key : marks.all (fun x => !x.isAlphanum) = true := by decide
  have hno := List.all_eq_true.1 key x hm
  simp [hl x hx] at hno

/-- What stands around an address brings its own marks. -/
lemma marked_framed {ms p q : Text} (hp : Marked ms p) (hq : Marked ms q)
    (hs : ∀ x ∈ s, isSpanChar x = true) : Marked (ms ++ "*_#?-~".toList) (p ++ s ++ q) := by
  have hleft : ms ⊆ ms ++ "*_#?-~".toList := List.subset_append_left ms _
  have hright : "*_#?-~".toList ⊆ ms ++ "*_#?-~".toList := List.subset_append_right ms _
  exact .append (.append (hp.mono hleft) ((marked_of_isSpanChar hs).mono hright)) (hq.mono hleft)

lemma frames_link (hl : ∀ x ∈ label, x.isAlphanum = true) :
    Frames ("[".toList ++ label ++ "|".toList) ']' where
  head := ⟨'[', label ++ "|".toList, by simp, rfl⟩
  before := by
    refine ⟨?_, .append (.append (.of_all (by decide)) (marked_label hl)) (.of_all (by decide))⟩
    simpa using not_mem_of_isSpanChar (isSpanChar_of_isAlphanum hl) (x := '\n') (by decide)
  after := ⟨by decide, .of_all (by decide)⟩

lemma frames_image : Frames "!".toList '!' where
  head := ⟨'!', [], rfl, rfl⟩
  before := ⟨by decide, .of_all (by decide)⟩
  after := ⟨by decide, .of_all (by decide)⟩

/-- A link between a label and an address that may hold spans. -/
lemma writeLinks_address (hne : label ≠ []) (hl : ∀ x ∈ label, isSpanChar x = true) (hs : s ≠ [])
    (hspan : ∀ x ∈ s, isSpanChar x = true) :
    writeLinks ("[".toList ++ label ++ "|".toList ++ s ++ "]".toList) =
      "[".toList ++ label ++ "](".toList ++ s ++ ")".toList := by
  have hlabel : ∀ x ∈ label, (isLabelChar x && x != '|') = true := by
    intro x hx
    have h := hl x hx
    simp only [isLabelChar, Bool.and_eq_true, bne_iff_ne]
    refine ⟨⟨⟨?_, ?_⟩, ?_⟩, ?_⟩ <;> rintro rfl <;> cases h
  have htarget : ∀ x ∈ s, isTargetChar x = true := by
    intro x hx
    have h := hspan x hx
    simp only [isTargetChar, Bool.and_eq_true, bne_iff_ne]
    refine ⟨?_, ?_⟩ <;> rintro rfl <;> cases h
  have hpiped : convertPipedLinks ("[".toList ++ label ++ "|".toList ++ s ++ "]".toList) =
      "[".toList ++ label ++ "](".toList ++ s ++ ")".toList :=
    (rewrites_span (read_pipedLink hlabel hne htarget hs) rfl).replace_eq
  have hbracket : '[' ∉ label ++ "](".toList ++ s ++ ")".toList := by
    simp [not_mem_of_isSpanChar hl (x := '[') (by decide),
      not_mem_of_isSpanChar hspan (x := '[') (by decide)]
  -- the parenthesis protects the label from the second pass
  have hread : bareLink.read none ('[' :: (label ++ "](".toList ++ s ++ ")".toList ++ [])) =
      none := by
    have h := read_bareLink (b := none) (r := "(".toList ++ s ++ ")".toList)
      (fun x hx => (by simpa using hlabel x hx : isLabelChar x = true ∧ x ≠ '|').1) hne
    have hparen : ("(".toList ++ s ++ ")".toList).head? = some '(' := rfl
    rw [if_pos hparen] at h
    simpa using h
  have hbare : convertBareLinks ('[' :: (label ++ "](".toList ++ s ++ ")".toList)) =
      '[' :: (label ++ "](".toList ++ s ++ ")".toList) :=
    (opensWith_bareLink.rewrites_cons hbracket hread).replace_eq
  rw [writeLinks, hpiped]
  simpa using hbare

lemma writeImages_address (hs : s ≠ []) (hspan : ∀ x ∈ s, isSpanChar x = true) :
    writeImages ("!".toList ++ s ++ "!".toList) = "![](".toList ++ s ++ ")".toList := by
  have hin : ∀ x ∈ s, (!isBlank x && x != '!') = true := by
    intro x hx
    have h : x ≠ '!' := ne_of_mem_of_not_mem hx (not_mem_of_isSpanChar hspan (by decide))
    simp [isBlank_of_isSpanChar (hspan x hx), h]
  have hread : imageSpan.read none ("!".toList ++ s ++ "!".toList ++ []) =
      some ⟨"!".toList ++ s ++ "!".toList, s, []⟩ := read_around_of_closes hs hin rfl
  exact (rewrites_span hread rfl).replace_eq

lemma writeLinks_image (hspan : ∀ x ∈ s, isSpanChar x = true) :
    writeLinks ("![](".toList ++ s ++ ")".toList) = "![](".toList ++ s ++ ")".toList := by
  have hs : '[' ∉ s := not_mem_of_isSpanChar hspan (by decide)
  have hpiped : convertPipedLinks ("![](".toList ++ s ++ ")".toList) =
      "![](".toList ++ s ++ ")".toList :=
    (opensWith_pipedLink.rewrites_image (fun _ _ => rfl) hs).replace_eq
  rw [writeLinks, hpiped]
  exact (opensWith_bareLink.rewrites_image (fun _ _ => rfl) hs).replace_eq

lemma writeSpans_ne_nil (h : s ≠ []) : writeSpans s ≠ [] := by
  have h1 : s.length ≤ (writeStrong s).length := (lengthens_strong.length_replace s).1
  have h2 : (writeStrong s).length ≤ (writeCitations (writeStrong s)).length :=
    (lengthens_citation.length_replace _).1
  have h3 : (writeCitations (writeStrong s)).length ≤ (writeSpans s).length :=
    (lengthens_subscript.length_replace _).1
  have hpos := List.length_pos_iff.2 h
  exact List.length_pos_iff.1 (by omega)

/-- A link is written with what the rules for spans leave of its address. -/
lemma convert_link (hne : label ≠ []) (hl : ∀ x ∈ label, x.isAlphanum = true) (hs : s ≠ [])
    (haddress : ∀ x ∈ s, isAddressChar x = true) :
    convert {} ("[".toList ++ label ++ "|".toList ++ s ++ "]".toList) =
      "[".toList ++ label ++ "](".toList ++ writeSpans s ++ ")".toList := by
  obtain ⟨-, -, hspan⟩ := isSpanChar_of_mem_writeSpans haddress
  have hmarked : Marked ("[|]".toList ++ "*_#?-~".toList)
      ("[".toList ++ label ++ "|".toList ++ writeSpans s ++ "]".toList) := by
    refine marked_framed (.append (.append ?_ (marked_label hl)) ?_) ?_ hspan
    all_goals exact .of_all (by decide)
  have hmarked' : Marked ("[]".toList ++ "*_#?-~".toList)
      ("[".toList ++ label ++ "](".toList ++ writeSpans s ++ ")".toList) := by
    refine marked_framed (.append (.append ?_ (marked_label hl)) ?_) ?_ hspan
    all_goals exact .of_all (by decide)
  calc convert {} ("[".toList ++ label ++ "|".toList ++ s ++ "]".toList)
      = Rule.applyAll {} (Rule.all.drop 10)
          ("[".toList ++ label ++ "|".toList ++ writeSpans s ++ "]".toList) :=
        congrArg (Rule.applyAll {} (Rule.all.drop 10))
          ((frames_link hl).applyAll_spanRules haddress)
    _ = Rule.applyAll {} (Rule.all.drop 13)
          ("[".toList ++ label ++ "|".toList ++ writeSpans s ++ "]".toList) :=
        congrArg (Rule.applyAll {} (Rule.all.drop 13)) (Rule.applyAll_eq_self_of_marked
          [.codeBlock, .quoteBlock, .image] (by decide) hmarked)
    _ = Rule.applyAll {} (Rule.all.drop 14)
          ("[".toList ++ label ++ "](".toList ++ writeSpans s ++ ")".toList) :=
        congrArg (Rule.applyAll {} (Rule.all.drop 14))
          (writeLinks_address hne (isSpanChar_of_isAlphanum hl) (writeSpans_ne_nil hs) hspan)
    _ = "[".toList ++ label ++ "](".toList ++ writeSpans s ++ ")".toList :=
        Rule.applyAll_eq_self_of_marked _ (by decide) hmarked'

/-- An image is written with what the rules for spans leave of its address. -/
lemma convert_image (hs : s ≠ []) (haddress : ∀ x ∈ s, isAddressChar x = true) :
    convert {} ("!".toList ++ s ++ "!".toList) =
      "![](".toList ++ writeSpans s ++ ")".toList := by
  obtain ⟨-, -, hspan⟩ := isSpanChar_of_mem_writeSpans haddress
  have hmarked : Marked ("!".toList ++ "*_#?-~".toList)
      ("!".toList ++ writeSpans s ++ "!".toList) :=
    marked_framed (.of_all (by decide)) (.of_all (by decide)) hspan
  have hmarked' : Marked ("![]".toList ++ "*_#?-~".toList)
      ("![](".toList ++ writeSpans s ++ ")".toList) :=
    marked_framed (.of_all (by decide)) (.of_all (by decide)) hspan
  calc convert {} ("!".toList ++ s ++ "!".toList)
      = Rule.applyAll {} (Rule.all.drop 10) ("!".toList ++ writeSpans s ++ "!".toList) :=
        congrArg (Rule.applyAll {} (Rule.all.drop 10)) (frames_image.applyAll_spanRules haddress)
    _ = Rule.applyAll {} (Rule.all.drop 12) ("!".toList ++ writeSpans s ++ "!".toList) :=
        congrArg (Rule.applyAll {} (Rule.all.drop 12)) (Rule.applyAll_eq_self_of_marked
          [.codeBlock, .quoteBlock] (by decide) hmarked)
    _ = Rule.applyAll {} (Rule.all.drop 13) ("![](".toList ++ writeSpans s ++ ")".toList) :=
        congrArg (Rule.applyAll {} (Rule.all.drop 13))
          (writeImages_address (writeSpans_ne_nil hs) hspan)
    _ = Rule.applyAll {} (Rule.all.drop 14) ("![](".toList ++ writeSpans s ++ ")".toList) :=
        congrArg (Rule.applyAll {} (Rule.all.drop 14)) (writeLinks_image hspan)
    _ = "![](".toList ++ writeSpans s ++ ")".toList :=
        Rule.applyAll_eq_self_of_marked _ (by decide) hmarked'

end Conversion

/-- The address of a link and that of an image are kept exactly if no pair of underscores, question
marks or tildes encloses a part of them. -/
theorem convert_address_iff (label s : Text) (hne : label ≠ [])
    (hl : ∀ x ∈ label, x.isAlphanum = true) (hs : s ≠ [])
    (haddress : ∀ x ∈ s, isAddressChar x = true) :
    (convert {} ("[".toList ++ label ++ "|".toList ++ s ++ "]".toList) =
        "[".toList ++ label ++ "](".toList ++ s ++ ")".toList ↔ Unpaired s) ∧
      (convert {} ("!".toList ++ s ++ "!".toList) = "![](".toList ++ s ++ ")".toList ↔
        Unpaired s) := by
  rw [convert_link hne hl hs haddress, convert_image hs haddress, ← writeSpans_eq_self_iff haddress]
  simp only [List.append_cancel_left_eq, List.append_cancel_right_eq, and_self]

/-- Marks of one kind that stand side by side, or alone, are kept. -/
theorem convert_address_single :
    convert {} "[site|http://a.b/x__y?q=1&r=~u#top]".toList =
        "[site](http://a.b/x__y?q=1&r=~u#top)".toList ∧
      convert {} "!http://a.b/x__y?q=1&r=~u#top!".toList =
        "![](http://a.b/x__y?q=1&r=~u#top)".toList := by
  have hu : Unpaired "http://a.b/x__y?q=1&r=~u#top".toList := by
    rw [← writeSpans_eq_self_iff (List.all_eq_true.1 (by decide))]
    decide +kernel
  have key := convert_address_iff "site".toList "http://a.b/x__y?q=1&r=~u#top".toList (by simp)
    (List.all_eq_true.1 (by decide)) (by simp) (List.all_eq_true.1 (by decide))
  exact ⟨key.1.2 hu, key.2.2 hu⟩

/-- Two underscores apart, two double question marks and two tildes are read as spans, wherever they
stand in an address. -/
theorem convert_address_paired :
    convert {} "[f|a_b_c]".toList = "[f](a**b**c)".toList ∧
      convert {} "[f|a??b??c]".toList = "[f](a<cite>b</cite>c)".toList ∧
        convert {} "!~a/b~c!".toList = "![](<sub>a/b</sub>c)".toList := by
  decide +kernel

end Wikidown
