import Wikidown.Proofs.Openers
import Wikidown.Proofs.QuoteLines

/-!
# Documents of blocks

A document of plain texts and blocks, one after the other. A block is written by the rule of its
kind and stands in its source before: `stage n` is the document in which the first `n` rules of a
conversion are done. No stage holds other marks than braces and hashes (`Document.marked_stage`), so
most rules find nothing in it, and what is written holds no brace that a later rule could open at
(`marked_render`).
-/

namespace Wikidown.Block

open Markup Pattern

/-- The kinds of blocks, with the language or the colour that the opening marker names. -/
inductive Kind
  | code (language : Text)
  | quote
  | noFormat
  | color (name : Text)
deriving DecidableEq, Repr

namespace Kind

/-- The rule that writes a block. -/
def rule : Kind → Rule
  | code _ => .codeBlock
  | quote => .quoteBlock
  | noFormat => .noFormat
  | color _ => .color

/-- The word between the braces of a block's markers. -/
def keyword : Kind → String
  | code _ => "code"
  | quote => "quote"
  | noFormat => "noformat"
  | color _ => "color"

/-- What the opening marker names behind a colon. Code may name no language. -/
def argument : Kind → Text
  | code language => if language = [] then [] else ':' :: language
  | color name => ':' :: name
  | quote | noFormat => []

/-- The marker in front of the content. -/
def opening (k : Kind) : Text :=
  '\x7b' :: (k.keyword.toList ++ k.argument) ++ ['\x7d']

/-- The marker behind the content. -/
def closing (k : Kind) : Text :=
  '\x7b' :: k.keyword.toList ++ ['\x7d']

/-- What is written for a block. -/
def render (content : Text) : Kind → Text
  | code language => fence ++ language ++ content ++ fence
  | quote => Text.unlines ((keptLines (content.splitOn '\n')).map fun l => quoteMark ++ l)
  | noFormat => fence ++ content ++ fence
  | color name =>
    "<span style=\"color:".toList ++ name ++ "\">".toList ++ content ++ "</span>".toList

/-- A language is made of lowercase letters. The name of a colour is not empty, lies on one line and
holds no marks but hashes. -/
def WellNamed : Kind → Prop
  | code language => ∀ x ∈ language, isLanguageChar x = true
  | color name => name ≠ [] ∧ '\n' ∉ name ∧ Marked "#".toList name
  | quote | noFormat => True

end Kind

/-- A segment of a document. -/
inductive Segment
  | plain (s : Text)
  | block (k : Kind) (content : Text)
deriving DecidableEq, Repr

namespace Segment

/-- The segment in the source. -/
def source : Segment → Text
  | plain s => s
  | block k c => k.opening ++ c ++ k.closing

/-- The segment in the written document. -/
def written : Segment → Text
  | plain s => s
  | block k c => k.render c

/-- The segment when the first `n` rules of a conversion are done. -/
def text (n : Nat) : Segment → Text
  | plain s => s
  | block k c => if k.rule.place < n then k.render c else k.opening ++ c ++ k.closing

end Segment

/-- The source of a document. -/
def source (gs : List Segment) : Text :=
  gs.flatMap Segment.source

/-- The written document. -/
def written (gs : List Segment) : Text :=
  gs.flatMap Segment.written

/-- The document when the first `n` rules of a conversion are done. -/
def stage (n : Nat) (gs : List Segment) : Text :=
  gs.flatMap (Segment.text n)

/-- Plain texts and blocks with plain content, where no two plain texts stand side by side. -/
inductive Document : List Segment → Prop
  | nil :
    Document []
  | plain {s gs} :
    Plain s →
    (∀ t, gs.head? ≠ some (.plain t)) →
    Document gs →
    Document (.plain s :: gs)
  | block {k c gs} :
    k.WellNamed →
    Plain c →
    Document gs →
    Document (.block k c :: gs)

/-! ## Markers -/

section Markers

variable {k : Kind} {c : Text} {x : Char}

lemma not_mem_marks_of_isLanguageChar (h : isLanguageChar x = true) : x ∉ marks := by
  have key : marks.any isLanguageChar = false := by decide
  intro hx
  simpa [h] using List.any_eq_false.1 key x hx

/-- The rules that write blocks, each with the keyword of its markers. -/
def keywords : List (Rule × String) :=
  [(.codeBlock, "code"), (.quoteBlock, "quote"), (.noFormat, "noformat"), (.color, "color")]

lemma mem_keywords (k : Kind) : (k.rule, k.keyword) ∈ keywords := by
  cases k <;> simp [keywords, Kind.rule, Kind.keyword]

/-- Keywords are on one line and hold no marks. -/
lemma not_mem_keyword (k : Kind) : '\n' ∉ k.keyword.toList ∧ Marked [] k.keyword.toList := by
  have key : ∀ p ∈ keywords, '\n' ∉ p.2.toList ∧
      p.2.toList.all (fun x => !marks.contains x || [].contains x) = true := by decide
  obtain ⟨hn, hm⟩ := key _ (mem_keywords k)
  exact ⟨hn, .of_all hm⟩

/-- What an opening marker names is on one line and holds no marks but hashes. -/
lemma not_mem_argument (hk : k.WellNamed) : '\n' ∉ k.argument ∧ Marked "#".toList k.argument := by
  cases k with
  | code language =>
    rw [Kind.argument]
    split
    · exact ⟨List.not_mem_nil, fun x hx => absurd hx List.not_mem_nil⟩
    · refine ⟨?_, .append (s := [':']) (.of_all (by decide)) fun x hx hm => ?_⟩
      · simpa using fun hx => Bool.false_ne_true (hk '\n' hx)
      · exact absurd hm (not_mem_marks_of_isLanguageChar (hk x hx))
  | color name =>
    obtain ⟨-, hn, hname⟩ := hk
    exact ⟨by simpa [Kind.argument] using hn, .append (s := [':']) (.of_all (by decide)) hname⟩
  | quote | noFormat => exact ⟨List.not_mem_nil, fun x hx => absurd hx List.not_mem_nil⟩

/-- What the rule for quotes writes. -/
lemma render_quote (hc : Plain c) : Kind.quote.render c = renderQuote c :=
  (renderQuote_eq (hc.not_mem (by decide))).symm

/-- A quote is written without marks if its content has none. -/
lemma not_mem_renderQuote (hc : Plain c) (hx : x ∈ marks) : x ∉ renderQuote c := by
  have hcr : '\r' ∉ c := hc.not_mem (by decide)
  by_cases hr : x = '\r'
  · subst hr
    exact (SameBreaks.refl hcr).renderQuote.not_mem
  · have hown : x ∉ "> \r\n".toList := by
      have key : marks.all (fun y => y == '\r' || !"> \r\n".toList.contains y) = true := by decide
      simpa [hr] using List.all_eq_true.1 key x hx
    rw [mem_renderQuote_iff hown]
    exact hc.not_mem hx

/-- A written block holds no marks but the hashes that a colour's name brings along. -/
lemma marked_render (hk : k.WellNamed) (hc : Plain c) : Marked "#".toList (k.render c) := by
  have hfence : Marked "#".toList fence := .of_all (by decide)
  cases k with
  | code language =>
    have hlang : Marked "#".toList language :=
      fun x hx hm => absurd hm (not_mem_marks_of_isLanguageChar (hk x hx))
    exact ((hfence.append hlang).append hc.marked).append hfence
  | quote =>
    rw [render_quote hc]
    exact fun x hx hm => absurd hx (not_mem_renderQuote hc hm)
  | noFormat => exact (hfence.append hc.marked).append hfence
  | color name =>
    have hopen : Marked "#".toList "<span style=\"color:".toList := .of_all (by decide)
    have hquote : Marked "#".toList "\">".toList := .of_all (by decide)
    exact (((hopen.append hk.2.2).append hquote).append hc.marked).append (.of_all (by decide))

end Markers

/-! ## Stages -/

section Stages

variable {n n' : Nat} {gs : List Segment} {k : Kind} {c : Text}

/-- No stage holds other marks than braces and hashes. -/
lemma Document.marked_stage (h : Document gs) : Marked "#\x7b\x7d".toList (stage n gs) := by
  have hash : ∀ {s : Text}, Marked "#".toList s → Marked "#\x7b\x7d".toList s :=
    fun hs => hs.mono (by decide)
  have braces : ∀ {m : Text}, Marked "#".toList m →
      Marked "#\x7b\x7d".toList ('\x7b' :: m ++ ['\x7d']) := fun hm =>
    .append (.append (s := ['\x7b']) (.of_all (by decide)) (hash hm)) (.of_all (by decide))
  induction h with
  | nil => exact .of_all rfl
  | plain hs _ _ ih => exact hs.marked.append ih
  | @block k c gs hk hc _ ih =>
    refine .append ?_ ih
    rw [Segment.text]
    split
    · exact hash (marked_render hk hc)
    · have hkey : Marked "#".toList k.keyword.toList := (not_mem_keyword k).2.mono (by simp)
      have hopen := braces (hkey.append (not_mem_argument hk).2)
      exact (hopen.append hc.marked).append (braces hkey)

/-- A pattern leads a document from one stage to another if it does so with each segment. -/
lemma Document.rewrite_stage {α : Type} {pat : Pattern α} {f : α → Text} {b : Option Char}
    (plain : ∀ b s gs, Plain s → (∀ t, gs.head? ≠ some (.plain t)) →
      pat.Rewrites f b s s (stage n gs))
    (block : ∀ b k c r, k.WellNamed → Plain c →
      pat.Rewrites f b ((Segment.block k c).text n) ((Segment.block k c).text n') r)
    (h : Document gs) : pat.rewrite f b (stage n gs) = stage n' gs := by
  induction h generalizing b with
  | nil => exact rewrite_nil b
  | @plain s gs hs hne _ ih =>
    exact (plain b s gs hs hne).rewrite_eq ih
  | @block k c gs hk hc _ ih =>
    exact (block b k c (stage n gs) hk hc).rewrite_eq ih

end Stages

end Wikidown.Block
