import Wikidown.Proofs.BlockDocument

/-!
# Conversion of blocks

Five rules look for braces. Each writes the blocks of its kind, if it has one, and reads nothing at
the markers of the blocks that are still to be written (`replace_stage_of_brace`). Every other rule
finds nothing: those for lines because no marker of a block is the mark of a line, the rest because
no stage holds their marks. So each rule leads a document to its next stage (`apply_stage`),
and a conversion writes every block (`convert_blocks`).
-/

namespace Wikidown.Block

open Markup Pattern

/-! ## Reading a block -/

section Reading

variable {b : Option Char} {language name c r : Text}

lemma codeOpening?_opening (hl : ∀ x ∈ language, isLanguageChar x = true) :
    codeOpening? ((Kind.code language).opening ++ r) =
      some (language, (Kind.code language).opening, r) := by
  refine codeOpening?_eq_some_iff.2 ⟨rfl, ?_⟩
  by_cases hnil : language = []
  · subst hnil
    exact .inl ⟨rfl, rfl⟩
  · exact .inr ⟨hnil, hl, by simp [Kind.opening, Kind.keyword, Kind.argument, hnil]⟩

lemma read_codeBlock (hl : ∀ x ∈ language, isLanguageChar x = true) (hc : '\x7b' ∉ c) :
    codeBlock.read b ((Kind.code language).opening ++ c ++ (Kind.code language).closing ++ r) =
      some ⟨(Kind.code language).opening ++ c ++ (Kind.code language).closing,
        (language, c), r⟩ := by
  have hclosing : (Kind.code language).closing = "\x7bcode\x7d".toList := by
    simp [Kind.closing, Kind.keyword]
  have hcut : Text.cut? "\x7bcode\x7d".toList (c ++ ("\x7bcode\x7d".toList ++ r)) = some (c, r) :=
    Text.cut?_append rfl hc
  simp only [codeBlock, hclosing, List.append_assoc, codeOpening?_opening hl,
    Option.bind_some, hcut, Option.map_some]

lemma read_quoteBlock (hc : '\x7b' ∉ c) :
    quoteBlock.read b (Kind.quote.opening ++ c ++ Kind.quote.closing ++ r) =
      some ⟨Kind.quote.opening ++ c ++ Kind.quote.closing, c, r⟩ := by
  have hopening : Kind.quote.opening = "\x7bquote\x7d".toList := rfl
  have hclosing : Kind.quote.closing = "\x7bquote\x7d".toList := rfl
  have hcut : Text.cut? "\x7bquote\x7d".toList (c ++ ("\x7bquote\x7d".toList ++ r)) =
      some (c, r) := Text.cut?_append rfl hc
  simp only [quoteBlock, hopening, hclosing, List.append_assoc, Text.after?_append,
    Option.bind_some, hcut, Option.map_some]

lemma read_colorSpan (hne : name ≠ []) (hname : '\x7d' ∉ name) (hc : '\x7b' ∉ c) :
    colorSpan.read b ((Kind.color name).opening ++ c ++ (Kind.color name).closing ++ r) =
      some ⟨(Kind.color name).opening ++ c ++ (Kind.color name).closing, (name, c), r⟩ := by
  have hin : ∀ x ∈ name, (x != '\x7d') = true := by
    intro x hx
    simpa using ne_of_mem_of_not_mem hx hname
  have hopening : (Kind.color name).opening =
      '\x7b' :: "color:".toList ++ name ++ "\x7d".toList := by
    simp [Kind.opening, Kind.keyword, Kind.argument]
  have hclosing : (Kind.color name).closing = "\x7bcolor\x7d".toList := by
    simp [Kind.closing, Kind.keyword]
  have hopen : (around '\x7b' "color:".toList (· != '\x7d') "\x7d".toList).read none
      ((Kind.color name).opening ++ (c ++ ("\x7bcolor\x7d".toList ++ r))) =
        some ⟨(Kind.color name).opening, name, c ++ ("\x7bcolor\x7d".toList ++ r)⟩ := by
    rw [hopening]
    exact read_around_of_closes hne hin rfl
  have hcut : Text.cut? "\x7bcolor\x7d".toList (c ++ ("\x7bcolor\x7d".toList ++ r)) =
      some (c, r) := Text.cut?_append rfl hc
  simp only [colorSpan, hclosing, List.append_assoc, hopen, Option.bind_some, hcut,
    Option.map_some]

end Reading

/-! ## Rules and stages -/

section Steps

variable {α : Type} {pat : Pattern α} {f : α → Text} {b : Option Char} {k : Kind} {c t : Text}
  {r : Rule} {n : Nat} {o : Options} {gs : List Segment}

/-- Nothing is written at the place of a rule that writes no blocks. -/
lemma stage_succ_of_ne (h : ∀ p ∈ keywords, p.1 ≠ r) :
    stage (r.place + 1) gs = stage r.place gs := by
  refine List.flatMap_congr fun g _ => ?_
  cases g with
  | plain s => rfl
  | block k c =>
    have hne : k.rule.place ≠ r.place := fun e => h _ (mem_keywords k) (Rule.place_inj.1 e)
    have hiff : k.rule.place < r.place + 1 ↔ k.rule.place < r.place := by omega
    simp only [Segment.text, hiff]

/-- Before the rules that write blocks, all blocks stand in their source. -/
lemma text_block_of_le (hn : n ≤ Rule.place .codeBlock) :
    (Segment.block k c).text n = k.opening ++ c ++ k.closing := by
  have hfirst : ∀ p ∈ keywords, Rule.place .codeBlock ≤ p.1.place := by decide
  have hle : Rule.place .codeBlock ≤ k.rule.place := hfirst _ (mem_keywords k)
  exact if_neg (by omega)

/-- No mark of a line goes on with a brace. -/
lemma endsMark_brace : EndsMark ('\x7b' :: t) := by
  rintro x hx
  cases hx
  decide

/-- Neither a marker nor plain text in front of a marker is taken for a line with a mark. -/
lemma rewrites_source_of_takesLine (hp : pat.TakesLine) (hk : k.WellNamed) (hc : Plain c) :
    pat.Rewrites f b (k.opening ++ c ++ k.closing) (k.opening ++ c ++ k.closing) t := by
  have hkey := (not_mem_keyword k).1
  have harg := (not_mem_argument hk).1
  have hopen : '\n' ∉ k.opening := by simp [Kind.opening, hkey, harg]
  have hclose : '\n' ∉ k.closing := by simp [Kind.closing, hkey]
  have hline : ∀ s, opensLine ('\x7b' :: s) = false :=
    fun s => opensLine_cons (by decide) (by decide)
  refine .append (.append (hp.rewrites_line hopen (hline _) (opensItem_cons rfl)) ?_) ?_
  · exact hp.rewrites_plain hc endsMark_brace
  · exact hp.rewrites_line hclose (hline _) (opensItem_cons rfl)

/-- A rule for lines does nothing to a document. -/
lemma replace_stage_of_takesLine (hp : pat.TakesLine) (hn : n ≤ Rule.place .codeBlock)
    (h : Document gs) : pat.replace f (stage n gs) = stage n gs := by
  refine h.rewrite_stage (fun b s gs hs hne => ?_) fun b k c t hk hc => ?_
  · have hend : EndsMark (stage n gs) := by
      cases gs with
      | nil => exact fun x hx => by cases hx
      | cons g gs =>
        cases g with
        | plain t => exact absurd rfl (hne t)
        | block k c =>
          rw [stage, List.flatMap_cons, text_block_of_le hn]
          exact endsMark_brace
    exact hp.rewrites_plain hs hend
  · rw [text_block_of_le hn]
    exact rewrites_source_of_takesLine hp hk hc

lemma mem_marks_of_brace : ∀ x ∈ ['\x7b'], x ∈ marks :=
  List.forall_mem_singleton.2 (by decide)

/-- A pattern that reads nothing at the keyword of a block passes over the block. -/
lemma rewrites_source_of_brace (ho : pat.OpensWith ['\x7b'])
    (hnone : ∀ b s, pat.read b ('\x7b' :: k.keyword.toList ++ s) = none) (hk : k.WellNamed)
    (hc : Plain c) :
    pat.Rewrites f b (k.opening ++ c ++ k.closing) (k.opening ++ c ++ k.closing) t := by
  have hkey : '\x7b' ∉ k.keyword.toList := fun hx => by
    simpa using (not_mem_keyword k).2 _ hx (by decide)
  have harg : '\x7b' ∉ k.argument := fun hx => by
    simpa using (not_mem_argument hk).2 _ hx (by decide)
  refine .append (.append ?_ (ho.rewrites_plain mem_marks_of_brace hc)) ?_
  · refine ho.rewrites_cons (by simp [hkey, harg]) ?_
    simpa using hnone b (k.argument ++ '\x7d' :: (c ++ (k.closing ++ t)))
  · refine ho.rewrites_cons (by simp [hkey]) ?_
    simpa using hnone _ ('\x7d' :: t)

/-- A rule whose spans begin with a brace writes its own blocks. The others are written already, or
they are not read because their keywords differ from what the rule looks for behind the brace. -/
lemma replace_stage_of_brace (m : Text) (ho : pat.OpensWith ['\x7b'])
    (hread : ∀ b s, Text.after? ('\x7b' :: m) s = none → pat.read b s = none)
    (other : ∀ p ∈ keywords, r.place < p.1.place → ¬ m <+: p.2.toList ∧ ¬ p.2.toList <+: m)
    (own : ∀ (k : Kind) c b t, k.rule = r → k.WellNamed → Plain c →
      pat.Rewrites f b (k.opening ++ c ++ k.closing) (k.render c) t)
    (h : Document gs) : pat.replace f (stage r.place gs) = stage (r.place + 1) gs := by
  refine h.rewrite_stage (fun b s gs hs _ => ho.rewrites_plain mem_marks_of_brace hs) ?_
  intro b k c t hk hc
  simp only [Segment.text]
  rcases lt_trichotomy k.rule.place r.place with hlt | heq | hgt
  · rw [if_pos hlt, if_pos (by omega)]
    refine ho.rewrites_self fun x hx hb => ?_
    cases List.mem_singleton.1 hb
    exact absurd (marked_render hk hc _ hx (by decide)) (by decide)
  · rw [if_neg (by omega), if_pos (by omega)]
    exact own k c b t (Rule.place_inj.1 heq) hk hc
  · rw [if_neg (by omega), if_neg (by omega)]
    have hnone : ∀ b s, pat.read b ('\x7b' :: k.keyword.toList ++ s) = none := by
      intro b s
      obtain ⟨hm, hkey⟩ := other _ (mem_keywords k) hgt
      refine hread b _ (Text.after?_append_eq_none ?_ ?_) <;> simpa
    exact rewrites_source_of_brace ho hnone hk hc

lemma writeMonospace_stage (h : Document gs) :
    writeMonospace (stage (Rule.place .monospace) gs) = stage (Rule.place .monospace + 1) gs := by
  refine replace_stage_of_brace "\x7b".toList opensWith_around (fun b s hs => ?_) (by decide) ?_ h
  · simp only [monospaceSpan, around, Pattern.filter, between, hs, Option.bind_none,
      Option.filter_none]
  · intro k c b t hk
    cases k <;> cases hk

lemma writeCodeBlocks_stage (h : Document gs) :
    writeCodeBlocks (stage (Rule.place .codeBlock) gs) = stage (Rule.place .codeBlock + 1) gs := by
  refine replace_stage_of_brace "code".toList opensWith_codeBlock (fun b s hs => ?_)
    (by decide) ?_ h
  · have hcode : Text.after? "\x7bcode".toList s = none := hs
    simp only [codeBlock, codeOpening?, hcode, Option.bind_none]
  · intro k c b t hk hl hc
    cases k with
    | code language => exact rewrites_span (read_codeBlock hl (hc.not_mem (by decide))) rfl
    | _ => cases hk

lemma writeQuoteBlocks_stage (h : Document gs) :
    writeQuoteBlocks (stage (Rule.place .quoteBlock) gs) =
      stage (Rule.place .quoteBlock + 1) gs := by
  refine replace_stage_of_brace "quote\x7d".toList opensWith_quoteBlock (fun b s hs => ?_)
    (by decide) ?_ h
  · have hquote : Text.after? "\x7bquote\x7d".toList s = none := hs
    simp only [quoteBlock, hquote, Option.bind_none]
  · intro k c b t hk _ hc
    cases k with
    | quote => exact rewrites_span (read_quoteBlock (hc.not_mem (by decide))) (render_quote hc).symm
    | _ => cases hk

/-- Both markers of unformatted text are written as fences. -/
lemma writeNoFormat_stage (h : Document gs) :
    writeNoFormat (stage (Rule.place .noFormat) gs) = stage (Rule.place .noFormat + 1) gs := by
  refine replace_stage_of_brace "noformat\x7d".toList opensWith_marker (fun b s hs => ?_)
    (by decide) ?_ h
  · simp only [marker, hs, Option.map_none]
  · intro k c b t hk _ hc
    cases k with
    | noFormat =>
      have hfence : ∀ b t, (marker '\x7b' "noformat\x7d".toList).Rewrites (fun _ => fence) b
          "\x7bnoformat\x7d".toList fence t := fun b t =>
        rewrites_span (a := ()) (read_marker_iff.2 ⟨rfl, rfl⟩) rfl
      refine .append (.append (hfence b _) ?_) (hfence _ t)
      exact opensWith_marker.rewrites_plain mem_marks_of_brace hc
    | _ => cases hk

lemma writeColors_stage (h : Document gs) :
    writeColors (stage (Rule.place .color) gs) = stage (Rule.place .color + 1) gs := by
  refine replace_stage_of_brace "color:".toList opensWith_colorSpan (fun b s hs => ?_)
    (by decide) ?_ h
  · simp only [colorSpan, around, Pattern.filter, between, hs, Option.bind_none, Option.filter_none]
  · intro k c b t hk hname hc
    cases k with
    | color name =>
      obtain ⟨hne, -, hmarked⟩ := hname
      have hbrace : '\x7d' ∉ name := fun hx => by simpa using hmarked _ hx (by decide)
      exact rewrites_span (read_colorSpan hne hbrace (hc.not_mem (by decide))) rfl
    | _ => cases hk

/-- Each rule leads from the stage at its place to the next. -/
lemma apply_stage (r : Rule) (h : Document gs) :
    r.apply o (stage r.place gs) = stage (r.place + 1) gs := by
  cases r with
  | quotedLine =>
    rw [stage_succ_of_ne (by decide)]
    exact replace_stage_of_takesLine takesLine_quotedLine (by decide) h
  | list =>
    rw [stage_succ_of_ne (by decide)]
    exact replace_stage_of_takesLine takesLine_listItem (by decide) h
  | header =>
    rw [stage_succ_of_ne (by decide)]
    exact replace_stage_of_takesLine takesLine_headerLine (by decide) h
  | monospace => exact writeMonospace_stage h
  | codeBlock => exact writeCodeBlocks_stage h
  | quoteBlock => exact writeQuoteBlocks_stage h
  | noFormat => exact writeNoFormat_stage h
  | color => exact writeColors_stage h
  | strong | citation | insert | superscript | subscript | delete | image | link | tableHeader =>
    rw [stage_succ_of_ne (by decide)]
    exact Rule.apply_eq_self_of_marked o rfl (by decide) h.marked_stage

/-- Before all rules no block is written. -/
lemma stage_zero : stage 0 gs = source gs := by
  refine List.flatMap_congr fun g _ => ?_
  cases g <;> rfl

/-- After all rules every block is written. -/
lemma stage_all : stage Rule.all.length gs = written gs := by
  refine List.flatMap_congr fun g _ => ?_
  cases g with
  | plain s => rfl
  | block k c => exact if_pos (List.idxOf_lt_length_of_mem (Rule.mem_all k.rule))

end Steps

/-- A document of plain texts and blocks is converted block by block: each block is written in the
form of its kind, and neither the plain texts, nor the content of a block, nor what other rules
wrote is taken for markup. -/
theorem convert_blocks (o : Options) (gs : List Segment) (h : Document gs) :
    convert o (source gs) = written gs := by
  have key := convert_stages (o := o) (D := fun n => stage n gs) fun r => apply_stage r h
  rwa [stage_zero, stage_all] at key

/-- Blocks of all kinds side by side. The quote loses the breaks at its markers and the empty line
at its end, and keeps the one inside. -/
theorem convert_blocks_adjacent :
    convert ⟨true⟩ ("a\n\x7bcode:sh\x7db\n\x7bcode\x7d\x7bquote\x7d\nc\n\nd\n\n\x7bquote\x7d" ++
        "\x7bcolor:#ff0\x7de\x7bcolor\x7d\x7bnoformat\x7d\x7bnoformat\x7df").toList =
      "a\n```shb\n```> c\n> \n> d<span style=\"color:#ff0\">e</span>``````f".toList := by
  refine convert_blocks ⟨true⟩ [.plain "a\n".toList, .block (.code "sh".toList) "b\n".toList,
    .block .quote "\nc\n\nd\n\n".toList, .block (.color "#ff0".toList) "e".toList,
    .block .noFormat [], .plain "f".toList] ?_
  refine .plain (by decide) (by simp) ?_
  have hlanguage : (Kind.code "sh".toList).WellNamed := List.all_eq_true.1 (by decide)
  refine .block hlanguage (by decide) ?_
  refine .block trivial (by decide) ?_
  refine .block (k := .color "#ff0".toList) ⟨by decide, by decide, .of_all (by decide)⟩
    (by decide) ?_
  refine .block trivial (by decide) ?_
  exact .plain (by decide) (by simp) .nil

end Wikidown.Block
