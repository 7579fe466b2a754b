import Wikidown.Proofs.InlineDocument
import Wikidown.Proofs.Runs

/-!
# Rules and inline forms

What each pattern does to a stage of an inline document. Patterns for lines do nothing
(`replace_stage_of_takesLine`), because no form is read as the mark of a line. The pattern of a rule
for spans writes the forms of this rule and passes over all other segments, which hold none of the
characters it opens with (`replace_stage_of_opensWith`). The two passes over links share their
bracket with images, so they are taken apart by what follows the bracket.
-/

namespace Wikidown.Inline

open Pattern Markup

section Steps

variable {α : Type} {pat : Pattern α} {f : α → Text} {o : Options} {done : Segment → Bool}
  {d : Bool} {k : Form} {c r before after : Text} {gs : List Segment} {b next : Option Char}
  {x : Char}

/-! ## Rules for lines -/

/-- A form at the front of a line is no list item: its opening marker is no run, or no space follows
it. -/
lemma opensItem_form (hx : isListMark x = false) (ha : k.Admits before (x :: c) after) :
    opensItem ((k.shape o d next).1.toList ++ x :: r) = false := by
  have h := forall_shape o d next k
    (P := fun k _ p => p.1.toList.head?.any (!isListMark ·) = true ∨
      p.1.toList.all isListMark = true ∧ k ∈ [.star, .underscore, .insertion, .deletion])
    (by decide)
  rcases h with h | ⟨h, hk⟩
  · obtain ⟨y, m, hm, hn⟩ := Text.exists_cons_of_any_head? h
    rw [hm]
    exact opensItem_cons (by simpa using hn)
  · refine opensItem_append (List.all_eq_true.1 h) hx ?_
    rintro rfl
    have hb : isBlank ' ' = true := rfl
    cases k with
    | star | underscore | insertion | deletion => simp [Form.Admits, startsInk, hb] at ha
    | _ => simp at hk

lemma not_mem_shape (o : Options) (d : Bool) (next : Option Char) (k : Form) :
    '\n' ∉ (k.shape o d next).1.toList ∧ '\n' ∉ (k.shape o d next).2.toList :=
  forall_shape o d next k (P := fun _ _ p => '\n' ∉ p.1.toList ∧ '\n' ∉ p.2.toList) (by decide)

/-- Neither a form in its source nor a written form is taken for a line with a mark. -/
lemma rewrites_form_of_takesLine (hp : pat.TakesLine) (hc : Plain c) (hne : c ≠ [])
    (ha : k.Admits before c after) :
    pat.Rewrites f b ((Segment.form k c).text o d next) ((Segment.form k c).text o d next) r := by
  obtain ⟨x, m, hm, hx⟩ := exists_opener o d next k
  obtain ⟨y, n, hn, hy⟩ := exists_closer o d next k
  rw [text_form]
  -- where the content reaches over lines, its lines and the markers are looked at one by one
  by_cases hbreak : '\n' ∈ c
  · have hk : k = .monospace ∨ k = .citation := by
      cases k with
      | image => exact absurd (ha _ hbreak) (by decide)
      | _ => simp [Form.Admits, hbreak] at ha ⊢
    obtain ⟨ho, hcl⟩ := forall_shape o d next k
      (P := fun k _ p => k = .monospace ∨ k = .citation →
        p.1.toList.any beginsMark = false ∧ p.2.toList.any beginsMark = false) (by decide) hk
    have hclose : EndsMark ((k.shape o d next).2.toList ++ r) := by
      rw [hn]
      exact endsMark_cons (List.mem_append_right _ hy)
    refine .append (.append (hp.rewrites_of_any ho) (hp.rewrites_plain hc hclose)) ?_
    exact hp.rewrites_of_any hcl
  · obtain ⟨z, c, rfl⟩ := List.exists_cons_of_ne_nil hne
    have hz : isListMark z = false := hc.isListMark_eq_false List.mem_cons_self
    obtain ⟨ho, hcl⟩ := not_mem_shape o d next k
    have hitem : opensItem ((k.shape o d next).1.toList ++
        z :: (c ++ (k.shape o d next).2.toList ++ r)) = false := opensItem_form hz ha
    apply hp.rewrites_line
    · simp only [List.mem_append, not_or]
      exact ⟨⟨ho, hbreak⟩, hcl⟩
    · rw [hm]
      exact opensLine_cons (ne_of_mem_of_not_mem hx (by decide))
        (ne_of_mem_of_not_mem hx (by decide))
    · simpa using hitem

lemma rewrites_link_of_takesLine {l u : Text} (hp : pat.TakesLine) (hl : '\n' ∉ l) (hu : '\n' ∉ u) :
    pat.Rewrites f b ((Segment.link l u).text o d next) ((Segment.link l u).text o d next) r := by
  cases d with
  | false => exact hp.rewrites_line (by simp [Segment.text, Segment.source, hl, hu]) rfl rfl
  | true => exact hp.rewrites_line (by simp [Segment.text, Segment.written, hl, hu]) rfl rfl

/-- A rule for lines does nothing to a document. -/
lemma replace_stage_of_takesLine (hp : pat.TakesLine) (h : Document [] gs) :
    pat.replace f (stage o done gs) = stage o done gs := by
  refine h.replace_stage fun before g gs b hg _ => ?_
  cases hg with
  | plain hs hn =>
    rw [text_plain]
    exact hp.rewrites_plain hs (endsMark_stage hn)
  | form hc hne ha => exact rewrites_form_of_takesLine hp hc hne ha
  | link _ _ hl _ _ hu => exact rewrites_link_of_takesLine hp hl hu

/-! ## Rules for spans -/

/-- The rule that writes a segment. -/
def Segment.rule? : Segment → Option Rule
  | plain _ => none
  | form k _ => some k.rule
  | link _ _ => some .link

/-- Whether the first `n` rules of a conversion have written a segment. -/
def upTo (n : Nat) (g : Segment) : Bool :=
  g.rule?.any fun r => decide (r.place < n)

/-- A form does not hold the character `x` when the first `n` rules are done. -/
def Form.lacks (n : Nat) (x : Char) (k : Form) : Bool :=
  (k.shapes (k.rule.place < n)).all fun p => !p.1.toList.contains x && !p.2.toList.contains x

lemma not_mem_of_lacks {n : Nat} (h : k.lacks n x = true) (o : Options) (next : Option Char) :
    x ∉ (k.shape o (k.rule.place < n) next).1.toList ∧
      x ∉ (k.shape o (k.rule.place < n) next).2.toList := by
  have key := List.all_eq_true.1 h _ (shape_mem_shapes o _ next k)
  simpa using key

lemma upTo_succ_of_ne {r : Rule} {g : Segment} (h : g.rule? ≠ some r) :
    upTo (r.place + 1) g = upTo r.place g := by
  rw [upTo, upTo]
  cases hg : g.rule? with
  | none => rfl
  | some r' =>
    have hne : r'.place ≠ r.place := fun e => h (hg.trans (congrArg some (Rule.place_inj.1 e)))
    simp only [Option.any_some]
    congr 1
    apply propext
    omega

lemma upTo_of_eq {r : Rule} {g : Segment} (h : g.rule? = some r) :
    upTo r.place g = false ∧ upTo (r.place + 1) g = true := by
  simp [upTo, h]

lemma mem_text_link {l u : Text} (h : x ∈ (Segment.link l u).text o d next) :
    x ∈ l ∨ x ∈ u ∨ x ∈ "[|]()".toList := by
  cases d with
  | false =>
    simp [Segment.text, Segment.source] at h ⊢
    grind
  | true =>
    simp [Segment.text, Segment.written] at h ⊢
    grind

/-- The marks with which spans other than links open. -/
def spanMarks : Text :=
  "*_\x7b?+^~-!".toList

lemma mem_marks_of_mem_spanMarks (h : x ∈ spanMarks) : x ∈ marks ∧ x ∉ "[|]()".toList := by
  have key : spanMarks.all (fun x => marks.contains x && !"[|]()".toList.contains x) = true := by
    decide
  simpa only [Bool.and_eq_true, Bool.not_eq_true', List.contains_iff_mem, Bool.eq_false_iff,
    ne_eq] using List.all_eq_true.1 key x h

/-- A rule whose spans are opened by marks of its own forms writes these forms and leaves the rest
of the document as it is. -/
lemma replace_stage_of_opensWith {r : Rule} {cs : Text} (ho : pat.OpensWith cs)
    (hspan : cs.all (spanMarks.contains ·) = true) (hr : r ≠ .link)
    (other : ∀ k ∈ Form.all, k.rule ≠ r → cs.all (k.lacks r.place ·) = true)
    (own : ∀ (k : Form) (c : Text) (gs : List Segment) (before : Text) (b next : Option Char),
      k.rule = r → Plain c → c ≠ [] → k.Admits before c (source gs) → Behind before b →
        pat.Rewrites f b (k.markers.1.toList ++ c ++ k.markers.2.toList)
          ((k.newMarkers o next).1.toList ++ c ++ (k.newMarkers o next).2.toList)
          (stage o (upTo r.place) gs))
    (h : Document [] gs) :
    pat.replace f (stage o (upTo r.place) gs) = stage o (upTo (r.place + 1)) gs := by
  have hcs : ∀ x ∈ cs, x ∈ marks ∧ x ∉ "[|]()".toList := fun x hx =>
    mem_marks_of_mem_spanMarks (List.contains_iff_mem.1 (List.all_eq_true.1 hspan x hx))
  have hplain : ∀ s, Plain s → ∀ x ∈ s, x ∉ cs :=
    fun s hs x hx hc => hs.unmarked x hx (hcs x hc).1
  refine h.replace_stage fun before g gs b hg hb => ?_
  cases hg with
  | @plain s gs hs _ =>
    rw [text_plain, text_plain]
    exact ho.rewrites_plain (fun x hx => (hcs x hx).1) hs
  | @form k c gs hc hne ha =>
    by_cases hk : k.rule = r
    · obtain ⟨hf, ht⟩ := upTo_of_eq (g := .form k c) (congrArg some hk)
      rw [hf, ht]
      exact own k c gs before b _ hk hc hne ha hb
    · rw [upTo_succ_of_ne (g := .form k c) (by simpa [Segment.rule?] using hk), text_form]
      refine ho.rewrites_self fun x hx hxc => ?_
      have hlacks : k.lacks r.place x = true := List.all_eq_true.1 (other k k.mem_all hk) x hxc
      obtain ⟨h1, h2⟩ := not_mem_of_lacks hlacks o (source gs).head?
      simp only [List.mem_append] at hx
      rcases hx with (hx | hx) | hx
      · exact h1 hx
      · exact hplain c hc x hx hxc
      · exact h2 hx
  | @link l u gs hl _ _ hu _ _ =>
    rw [upTo_succ_of_ne (g := .link l u) (by simpa [Segment.rule?] using hr.symm)]
    refine ho.rewrites_self fun x hx hxc => ?_
    rcases mem_text_link hx with hx | hx | hx
    · exact hplain l hl x hx hxc
    · exact hplain u hu x hx hxc
    · exact (hcs x hxc).2 hx

/-- Plain text in one line between two delimiters is read as a span. -/
lemma read_delimited {m : Char} (hm : m ∈ marks) (hc : Plain c) (hne : c ≠ []) (hn : '\n' ∉ c) :
    (delimited m).read b (m :: c ++ [m] ++ r) = some ⟨m :: c ++ [m], c, r⟩ :=
  read_delimited_iff.2 ⟨rfl, hne, hc.not_mem hm, hn⟩

lemma writeStrong_stage (h : Document [] gs) :
    writeStrong (stage o (upTo (Rule.place .strong)) gs) =
      stage o (upTo (Rule.place .strong + 1)) gs := by
  refine replace_stage_of_opensWith opensWith_strongSpan (by decide) (by decide) (by decide) ?_ h
  intro k c gs before b next hk hc hne ha _
  cases k with
  | star =>
    obtain ⟨hn, hink⟩ := ha
    have hread := read_delimited (b := b) (m := '*') (r := stage o (upTo (Rule.place .strong)) gs)
      (by decide) hc hne hn
    exact rewrites_span (read_orElse_iff.2 (.inl (read_filter_iff.2 ⟨hread, hink⟩))) rfl
  | underscore =>
    obtain ⟨hn, hink⟩ := ha
    have hread := read_delimited (b := b) (m := '_') (r := stage o (upTo (Rule.place .strong)) gs)
      (by decide) hc hne hn
    have hstar := (opensWith_emphasis (d := '*')).read_eq_none (x := '_') (by decide) b
      (c ++ ['_'] ++ stage o (upTo (Rule.place .strong)) gs)
    exact rewrites_span (read_orElse_iff.2 (.inr ⟨hstar, read_filter_iff.2 ⟨hread, hink⟩⟩)) rfl
  | _ => cases hk

lemma writeMonospace_stage (h : Document [] gs) :
    writeMonospace (stage o (upTo (Rule.place .monospace)) gs) =
      stage o (upTo (Rule.place .monospace + 1)) gs := by
  refine replace_stage_of_opensWith opensWith_around (by decide) (by decide) (by decide) ?_ h
  intro k c gs before b next hk hc hne _ _
  cases k with
  | monospace =>
    have hin : ∀ x ∈ c, (x != '\x7d') = true :=
      fun x hx => by simpa using ne_of_mem_of_not_mem hx (hc.not_mem (x := '\x7d') (by decide))
    exact rewrites_span (read_around_of_closes hne hin rfl) rfl
  | _ => cases hk

lemma writeCitations_stage (h : Document [] gs) :
    writeCitations (stage o (upTo (Rule.place .citation)) gs) =
      stage o (upTo (Rule.place .citation + 1)) gs := by
  refine replace_stage_of_opensWith opensWith_around (by decide) (by decide) (by decide) ?_ h
  intro k c gs before b next hk hc hne _ _
  cases k with
  | citation =>
    have hin : ∀ x ∈ c, (x != '?') = true :=
      fun x hx => by simpa using ne_of_mem_of_not_mem hx (hc.not_mem (x := '?') (by decide))
    exact rewrites_span (read_around_of_closes hne hin rfl) (by simp [element, Form.newMarkers])
  | _ => cases hk

/-- A form between two delimiters of one line is written by the rule for these delimiters. -/
lemma replace_delimited_stage {m : Char} {f : Text → Text} (hk : k.rule ≠ .link)
    (honly : ∀ k' ∈ Form.all, k'.rule = k.rule → k' = k)
    (hmarkers : k.markers.1.toList = [m] ∧ k.markers.2.toList = [m])
    (hm : m ∈ spanMarks)
    (other : ∀ k' ∈ Form.all, k'.rule ≠ k.rule → k'.lacks k.rule.place m = true)
    (hline : ∀ before c after, k.Admits before c after → '\n' ∉ c)
    (hf : ∀ next c, f c = (k.newMarkers o next).1.toList ++ c ++ (k.newMarkers o next).2.toList)
    (h : Document [] gs) :
    (delimited m).replace f (stage o (upTo k.rule.place) gs) =
      stage o (upTo (k.rule.place + 1)) gs := by
  refine replace_stage_of_opensWith (r := k.rule) opensWith_around (by simpa using hm) hk
    (by simpa using other) ?_ h
  intro k' c gs before b next hk' hc hne ha _
  obtain rfl := honly k' k'.mem_all hk'
  rw [hmarkers.1, hmarkers.2]
  have hmark : m ∈ marks := (mem_marks_of_mem_spanMarks hm).1
  exact rewrites_span (read_delimited hmark hc hne (hline _ _ _ ha)) (hf next c)

/-- A deletion is struck through, because blanks or the ends of the text stand around it. -/
lemma replace_deletedSpan_stage (hs : o.strikethrough = true) (h : Document [] gs) :
    deletedSpan.replace (fun content => "~~".toList ++ content ++ "~~".toList)
      (stage o (upTo (Rule.place .delete)) gs) = stage o (upTo (Rule.place .delete + 1)) gs := by
  refine replace_stage_of_opensWith opensWith_deletedSpan (by decide) (by decide) (by decide) ?_ h
  intro k c gs before b next hk hc hne ha hb
  cases k with
  | deletion =>
    obtain ⟨hn, hstart, hend, hbefore, hafter⟩ := ha
    have hread := read_delimited (b := b) (m := '-') (r := stage o (upTo (Rule.place .delete)) gs)
      (by decide) hc hne hn
    refine rewrites_span (read_filter_iff.2 ⟨hread, ?_⟩) (by simp [Form.newMarkers, hs])
    simp [hb hbefore, hstart, hend, all_isBlank_head?_stage hafter]
  | _ => cases hk

lemma writeImages_stage (h : Document [] gs) :
    writeImages (stage o (upTo (Rule.place .image)) gs) =
      stage o (upTo (Rule.place .image + 1)) gs := by
  refine replace_stage_of_opensWith opensWith_around (by decide) (by decide) (by decide) ?_ h
  intro k c gs before b next hk hc hne ha _
  cases k with
  | image =>
    have hin : ∀ x ∈ c, (!isBlank x && x != '!') = true := by
      intro x hx
      have h1 : x ≠ '!' := ne_of_mem_of_not_mem hx (hc.not_mem (by decide))
      have h2 : isBlank x = false := ha x hx
      simp [h1, h2]
    exact rewrites_span (read_around_of_closes hne hin rfl) rfl
  | _ => cases hk

/-! ## Links -/

/-- No link begins in a written form; the brackets of an image are empty. -/
lemma rewrites_form_of_bracket (ho : pat.OpensWith ['['])
    (hempty : ∀ b r, pat.read b ('[' :: ']' :: r) = none) (hc : Plain c) (hk : k ≠ .label) :
    pat.Rewrites f b ((Segment.form k c).text o true next) ((Segment.form k c).text o true next)
      r := by
  have hb : '[' ∉ c := hc.not_mem (by decide)
  by_cases himage : k = .image
  · subst himage
    exact ho.rewrites_image hempty hb
  · obtain ⟨h1, h2⟩ := forall_shape o true next k
      (P := fun k d p => k ≠ .label ∧ k ≠ .image ∧ d = true → '[' ∉ p.1.toList ∧ '[' ∉ p.2.toList)
      (by decide) ⟨hk, himage, rfl⟩
    rw [text_form]
    refine ho.rewrites_self fun x hx => ?_
    simp only [List.mem_append] at hx
    rw [List.mem_singleton]
    rintro rfl
    rcases hx with (hx | hx) | hx
    · exact h1 hx
    · exact hb hx
    · exact h2 hx

lemma isLabelChar_of_plain (hc : Plain c) (hn : '\n' ∉ c) :
    ∀ x ∈ c, isLabelChar x = true ∧ (isLabelChar x && x != '|') = true := by
  intro x hx
  have h1 : x ≠ '[' := ne_of_mem_of_not_mem hx (hc.not_mem (by decide))
  have h2 : x ≠ ']' := ne_of_mem_of_not_mem hx (hc.not_mem (by decide))
  have h3 : x ≠ '|' := ne_of_mem_of_not_mem hx (hc.not_mem (by decide))
  have h4 : x ≠ '\n' := ne_of_mem_of_not_mem hx hn
  simp [isLabelChar, h1, h2, h3, h4]

lemma isTargetChar_of_plain (hc : Plain c) (hn : '\n' ∉ c) : ∀ x ∈ c, isTargetChar x = true := by
  intro x hx
  have h1 : x ≠ ']' := ne_of_mem_of_not_mem hx (hc.not_mem (by decide))
  have h2 : x ≠ '\n' := ne_of_mem_of_not_mem hx hn
  simp [isTargetChar, h1, h2]

/-- Between the two passes over links only the labels are left in their source. -/
def piped : Segment → Bool
  | .form .label _ => false
  | _ => true

lemma convertPipedLinks_stage (h : Document [] gs) :
    convertPipedLinks (stage o (upTo (Rule.place .link)) gs) = stage o piped gs := by
  refine h.replace_stage fun before g gs b hg _ => ?_
  have ho := opensWith_pipedLink
  cases hg with
  | plain hs _ =>
    rw [text_plain, text_plain]
    exact ho.rewrites_plain (List.forall_mem_singleton.2 (by decide)) hs
  | @form k c gs hc hne ha =>
    -- a label is left for the second pass
    by_cases hk : k = .label
    · subst hk
      exact ho.rewrites_cons (l := c ++ "]".toList) (by simp [hc.not_mem (x := '[') (by decide)])
        (by
          simpa using read_pipedLink_label (fun x hx => (isLabelChar_of_plain hc ha x hx).2) hne)
    · have hdone : upTo (Rule.place .link) (.form k c) = true ∧ piped (.form k c) = true := by
        cases k <;> first | exact absurd rfl hk | exact ⟨rfl, rfl⟩
      rw [hdone.1, hdone.2]
      exact rewrites_form_of_bracket ho (fun _ _ => rfl) hc hk
  | link hl hlne hln hu hune hun =>
    exact rewrites_span (read_pipedLink (fun x hx => (isLabelChar_of_plain hl hln x hx).2) hlne
      (isTargetChar_of_plain hu hun) hune) rfl

lemma convertBareLinks_stage (h : Document [] gs) :
    convertBareLinks (stage o piped gs) = stage o (upTo (Rule.place .link + 1)) gs := by
  refine h.replace_stage fun before g gs b hg _ => ?_
  have ho := opensWith_bareLink
  cases hg with
  | plain hs _ =>
    rw [text_plain, text_plain]
    exact ho.rewrites_plain (List.forall_mem_singleton.2 (by decide)) hs
  | @form k c gs hc hne ha =>
    by_cases hk : k = .label
    · subst hk
      have hdone : piped (.form .label c) = false ∧
          upTo (Rule.place .link + 1) (.form .label c) = true := ⟨rfl, rfl⟩
      rw [hdone.1, hdone.2]
      have hread := read_bareLink (b := b) (r := stage o piped gs)
        (fun x hx => (isLabelChar_of_plain hc ha x hx).1) hne
      by_cases hp : (source gs).head? = some '('
      · rw [if_pos (head?_stage_eq_paren.2 hp)] at hread
        have hkept : (Segment.form .label c).text o true (source gs).head? =
            '[' :: (c ++ "]".toList) := by
          simp [Segment.text, Segment.written, Form.newMarkers, hp]
        rw [hkept]
        exact ho.rewrites_cons (l := c ++ "]".toList)
          (by simp [hc.not_mem (x := '[') (by decide)]) hread
      · rw [if_neg fun e => hp (head?_stage_eq_paren.1 e)] at hread
        exact rewrites_span hread (by simp [Segment.text, Segment.written, Form.newMarkers, hp])
    · have hdone : piped (.form k c) = true ∧ upTo (Rule.place .link + 1) (.form k c) = true := by
        cases k <;> first | exact absurd rfl hk | exact ⟨rfl, rfl⟩
      rw [hdone.1, hdone.2]
      exact rewrites_form_of_bracket ho (fun _ _ => rfl) hc hk
  | @link l u gs hl hlne hln hu _ _ =>
    have hread := read_bareLink (b := b) (r := "(".toList ++ u ++ ")".toList ++ stage o piped gs)
      (fun x hx => (isLabelChar_of_plain hl hln x hx).1) hlne
    -- the parenthesis that the first pass wrote protects the label
    have hparen : ("(".toList ++ u ++ ")".toList ++ stage o piped gs).head? = some '(' := rfl
    rw [if_pos hparen] at hread
    refine ho.rewrites_cons (l := l ++ "](".toList ++ u ++ ")".toList) ?_ (by simpa using hread)
    simp [hl.not_mem (x := '[') (by decide), hu.not_mem (x := '[') (by decide)]

end Steps

end Wikidown.Inline
