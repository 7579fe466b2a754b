import Wikidown.Proofs.InlineRules
import Wikidown.Proofs.Locality

/-!
# Conversion of inline documents

Each of the rules leads an inline document from the stage at its place to the next (`apply_stage`):
it writes its own forms, or it finds nothing. So a conversion writes every form and leaves the plain
texts as they are (`convert_source`).
-/

namespace Wikidown.Inline

open Pattern Markup

section Stages

variable {o : Options} {gs : List Segment} {before : Text} {x : Char}

/-! ## Rules that find nothing -/

/-- A mark that no form holds at a stage is not found in the document. -/
lemma not_mem_stage {n : Nat} (hx : x ∈ marks)
    (hforms : ∀ k ∈ Form.all, k.lacks n x = true)
    (hlink : x ∉ "[|]()".toList ∨ x = '|' ∧ Rule.place .link < n)
    (h : Document before gs) : x ∉ stage o (upTo n) gs := by
  induction h with
  | nil => simp [stage]
  | @cons before g gs hg _ ih =>
    rw [stage, List.mem_append, not_or]
    refine ⟨?_, ih⟩
    cases hg with
    | plain hs _ => simpa using hs.not_mem hx
    | @form k c gs hc _ _ =>
      obtain ⟨h1, h2⟩ := not_mem_of_lacks (hforms k k.mem_all) o (source gs).head?
      rw [text_form]
      simp only [List.mem_append, not_or]
      exact ⟨⟨h1, hc.not_mem hx⟩, h2⟩
    | @link l u gs hl _ _ hu _ _ =>
      rcases hlink with hlink | ⟨rfl, hplace⟩
      · intro hmem
        rcases mem_text_link hmem with hmem | hmem | hmem
        · exact hl.not_mem hx hmem
        · exact hu.not_mem hx hmem
        · exact hlink hmem
      · have hdone : upTo n (.link l u) = true := by simp [upTo, Segment.rule?, hplace]
        rw [hdone]
        simp [Segment.text, Segment.written, hl.not_mem hx, hu.not_mem hx]

/-- Nothing is written at the place of a rule to which no form belongs. -/
lemma stage_upTo_succ {r : Rule} (hforms : ∀ k ∈ Form.all, k.rule ≠ r) (hr : r ≠ .link) :
    stage o (upTo (r.place + 1)) gs = stage o (upTo r.place) gs := by
  have h : upTo (r.place + 1) = upTo r.place := by
    funext g
    apply upTo_succ_of_ne
    cases g with
    | plain s => simp [Segment.rule?]
    | form k c => simpa [Segment.rule?] using hforms k k.mem_all
    | link l u => simpa [Segment.rule?] using hr.symm
  rw [h]

/-- A rule for lines leads to the next stage. -/
lemma replace_stage_succ_of_takesLine {α : Type} {pat : Pattern α} {f : α → Text} {r : Rule}
    (hp : pat.TakesLine) (hforms : ∀ k ∈ Form.all, k.rule ≠ r) (hr : r ≠ .link)
    (h : Document [] gs) :
    pat.replace f (stage o (upTo r.place) gs) = stage o (upTo (r.place + 1)) gs := by
  rw [stage_upTo_succ hforms hr]
  exact replace_stage_of_takesLine hp h

/-- A rule for blocks leads to the next stage, because monospaced text has lost its braces. -/
lemma apply_stage_of_brace {r : Rule} (hforms : ∀ k ∈ Form.all, k.rule ≠ r) (hr : r ≠ .link)
    (hlacks : ∀ k ∈ Form.all, k.lacks r.place '\x7b' = true) (hb : '\x7b' ∈ r.markup.toList)
    (h : Document [] gs) :
    r.apply o (stage o (upTo r.place) gs) = stage o (upTo (r.place + 1)) gs := by
  rw [stage_upTo_succ hforms hr]
  exact Rule.apply_eq_self_of_not_mem o hb (not_mem_stage (by decide) hlacks (.inl (by decide)) h)

/-- Each rule leads from the stage at its place to the next. -/
lemma apply_stage (r : Rule) (h : Document [] gs) :
    r.apply o (stage o (upTo r.place) gs) = stage o (upTo (r.place + 1)) gs := by
  cases r with
  | quotedLine =>
    exact replace_stage_succ_of_takesLine takesLine_quotedLine (by decide) (by decide) h
  | strong => exact writeStrong_stage h
  | list => exact replace_stage_succ_of_takesLine takesLine_listItem (by decide) (by decide) h
  | header => exact replace_stage_succ_of_takesLine takesLine_headerLine (by decide) (by decide) h
  | monospace => exact writeMonospace_stage h
  | citation => exact writeCitations_stage h
  | insert =>
    exact replace_delimited_stage (k := .insertion) (by decide) (by decide) ⟨rfl, rfl⟩ (by decide)
      (by decide) (fun _ _ _ ha => ha.1) (fun _ _ => by simp [element, Form.newMarkers]) h
  | superscript =>
    exact replace_delimited_stage (k := .superscript) (by decide) (by decide) ⟨rfl, rfl⟩ (by decide)
      (by decide) (fun _ _ _ ha => ha) (fun _ _ => by simp [element, Form.newMarkers]) h
  | subscript =>
    exact replace_delimited_stage (k := .subscript) (by decide) (by decide) ⟨rfl, rfl⟩ (by decide)
      (by decide) (fun _ _ _ ha => ha) (fun _ _ => by simp [element, Form.newMarkers]) h
  | delete =>
    simp only [Rule.apply, writeDeletions]
    split
    · next hs => exact replace_deletedSpan_stage hs h
    · next hs =>
      exact replace_delimited_stage (k := .deletion) (by decide) (by decide) ⟨rfl, rfl⟩ (by decide)
        (by decide) (fun _ _ _ ha => ha.1) (fun _ _ => by simp [Form.newMarkers, hs]) h
  | image => exact writeImages_stage h
  | link =>
    rw [Rule.apply, writeLinks, convertPipedLinks_stage h]
    exact convertBareLinks_stage h
  | tableHeader =>
    rw [stage_upTo_succ (by decide) (by decide)]
    exact writeTableHeaders_eq_self (not_mem_stage (by decide) (by decide) (.inr (by decide)) h)
      (not_mem_stage (by decide) (by decide) (.inl (by decide)) h)
  | codeBlock | quoteBlock | noFormat | color =>
    exact apply_stage_of_brace (by decide) (by decide) (by decide) (by simp [Rule.markup]) h

/-- Before all rules no segment is written. -/
lemma stage_zero : stage o (upTo 0) gs = source gs := by
  induction gs with
  | nil => rfl
  | cons g gs ih =>
    have hg : upTo 0 g = false := by cases g <;> rfl
    rw [stage, ih, hg]
    rfl

/-- After all rules every segment is written. -/
lemma stage_all : stage o (upTo Rule.all.length) gs = written o gs := by
  induction gs with
  | nil => rfl
  | cons g gs ih =>
    rw [stage, ih, written]
    -- a plain text counts as never written, which makes no difference
    congr 1
    cases g with
    | plain s => rw [text_plain]; rfl
    | form k c =>
      have hdone : upTo Rule.all.length (.form k c) = true := by cases k <;> rfl
      rw [hdone]
      rfl
    | link l u => rfl

end Stages

/-- A document of plain texts and inline forms is converted form by form: each form is written in
its new markers, and neither the plain texts nor what other rules wrote is taken for markup. -/
theorem convert_source (o : Options) (gs : List Segment) (h : Document [] gs) :
    convert o (source gs) = written o gs := by
  have key := convert_stages (D := fun n => stage o (upTo n) gs) fun r => apply_stage r h
  rwa [stage_zero, stage_all] at key

/-- Forms side by side, a deletion at the end of a line, and a label in front of a parenthesis. -/
theorem convert_source_adjacent :
    convert ⟨true⟩ "a *b*+c+ -d-\n[e](f)[g|h]".toList =
      "a **b**<ins>c</ins> ~~d~~\n[e](f)[g](h)".toList := by
  refine convert_source ⟨true⟩ [.plain "a ".toList, .form .star "b".toList,
    .form .insertion "c".toList, .plain " ".toList, .form .deletion "d".toList, .plain "\n".toList,
    .form .label "e".toList, .plain "(f)".toList, .link "g".toList "h".toList] ?_
  refine .cons (.plain (by decide) (by simp)) ?_
  refine .cons (.form (by decide) (by simp) ⟨by decide, rfl⟩) ?_
  refine .cons (.form (by decide) (by simp) ⟨by decide, by simp⟩) ?_
  refine .cons (.plain (by decide) (by simp)) ?_
  refine .cons (.form (by decide) (by simp) ⟨by decide, rfl, rfl, rfl, rfl⟩) ?_
  refine .cons (.plain (by decide) (by simp)) ?_
  refine .cons (.form (by decide) (by simp) (by decide : '\n' ∉ "e".toList)) ?_
  refine .cons (.plain (by decide) (by simp)) ?_
  exact .cons (.link (by decide) (by simp) (by decide) (by decide) (by simp) (by decide)) .nil

end Wikidown.Inline
