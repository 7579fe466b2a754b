import Wikidown.Proofs.BlockConversion
import Wikidown.Proofs.Words

/-!
# Documents of code

A document of texts and code blocks. A block whose tag names no language is not read as a block, and
then the marker at its end opens a block with what follows, if there is another marker to close it.
So the markers of all later blocks change their parts until a block with a tag comes (`written`).
Blocks are written independently of each other exactly if no block follows one that is not read
(`writeCodeBlocks_document`).
-/

namespace Wikidown.Code

open Markup Pattern

/-- The marker in front of a block with the given tag. Without a tag it is the one behind all blocks
too. -/
def marker (tag : Text) : Text :=
  (Block.Kind.code tag).opening

/-- A tag holds no braces. -/
def Braceless (tag : Text) : Prop :=
  '\x7b' ∉ tag ∧ '\x7d' ∉ tag

/-- A tag is supported if it is made of the characters of a language's name, or empty. -/
def Supported (tag : Text) : Prop :=
  ∀ x ∈ tag, isLanguageChar x = true

/-- The markers of code blocks. -/
def IsMarker (w : Text) : Prop :=
  ∃ tag, Braceless tag ∧ w = marker tag

/-- The markers with which a code block can begin. -/
def Opens (w : Text) : Prop :=
  ∃ tag, Supported tag ∧ w = marker tag

instance : DecidablePred Braceless := fun tag =>
  inferInstanceAs (Decidable ('\x7b' ∉ tag ∧ '\x7d' ∉ tag))

instance : DecidablePred Supported := fun tag =>
  List.decidableBAll (isLanguageChar · = true) tag

/-- A segment of a document. A block has an empty tag if its marker has none. -/
inductive Segment
  | text (s : Text)
  | block (tag content : Text)
deriving DecidableEq, Repr

namespace Segment

/-- The segment in the source. -/
def source : Segment → Text
  | text s => s
  | block tag c => marker tag ++ c ++ marker []

/-- The segment for itself: a block is written between fences if its tag is supported. -/
def alone : Segment → Text
  | text s => s
  | block tag c =>
    if Supported tag then fence ++ tag ++ c ++ fence else marker tag ++ c ++ marker []

/-- Whether the segment is a block. -/
def isBlock : Segment → Bool
  | text _ => false
  | block _ _ => true

/-- Whether the segment is a block that is not read as one. -/
def isUnread : Segment → Bool
  | text _ => false
  | block tag _ => !decide (Supported tag)

end Segment

/-- The source of a document. -/
def source (gs : List Segment) : Text :=
  gs.flatMap Segment.source

/-- The document with each segment written for itself. -/
def independent (gs : List Segment) : Text :=
  gs.flatMap Segment.alone

/-- Texts in which no marker of a code block begins, also none that goes on behind the text, and
blocks with contents in which no such marker begins. -/
inductive Document : List Segment → Prop
  | nil :
    Document []
  | text {s gs} :
    Text.Avoids IsMarker s (source gs) →
    Document gs →
    Document (.text s :: gs)
  | block {tag c gs} :
    Braceless tag →
    ¬ "\x7bcode".toList <:+: c →
    Document gs →
    Document (.block tag c :: gs)

/-- What becomes of a marker without a tag that closes no block, in front of the given segments: it
opens one if another marker follows. -/
def turned (gs : List Segment) : Text :=
  if gs.any Segment.isBlock then fence else marker []

/-- The written document, where a block may have been opened in front of it. -/
def written : (opened : Bool) → List Segment → Text
  | _, [] => []
  | opened, .text s :: gs => s ++ written opened gs
  | false, .block tag c :: gs =>
    if Supported tag then fence ++ tag ++ c ++ fence ++ written false gs
    else marker tag ++ c ++ (turned gs ++ written (gs.any Segment.isBlock) gs)
  | true, .block [] c :: gs => fence ++ c ++ (turned gs ++ written (gs.any Segment.isBlock) gs)
  | true, .block (x :: tag) c :: gs => marker (x :: tag) ++ c ++ fence ++ written false gs

/-! ## Markers -/

section Markers

variable {tag l c r s t u : Text} {b : Option Char} {W : Text → Prop}

lemma Supported.braceless (h : Supported tag) : Braceless tag :=
  ⟨fun hx => Bool.false_ne_true (h _ hx), fun hx => Bool.false_ne_true (h _ hx)⟩

lemma marker_nil : marker [] = "\x7bcode\x7d".toList :=
  rfl

lemma marker_eq (tag : Text) :
    marker tag = '\x7b' :: ("code".toList ++ (Block.Kind.code tag).argument ++ ['\x7d']) := by
  simp [marker, Block.Kind.opening, Block.Kind.keyword]

lemma not_mem_argument {x : Char} (hx : x ≠ ':') (h : x ∉ tag) :
    x ∉ (Block.Kind.code tag).argument := by
  rw [Block.Kind.argument]
  split
  · exact List.not_mem_nil
  · simp [hx, h]

/-- A marker ends at its only closing brace. -/
lemma marker_inj (ht : Braceless tag) (hl : Braceless l) (h : marker tag ++ s = marker l ++ t) :
    tag = l := by
  have hfront {tag s : Text} (h : Braceless tag) : (marker tag ++ s).takeWhile (· != '\x7d') =
      '\x7b' :: ("code".toList ++ (Block.Kind.code tag).argument) := by
    have hsplit : marker tag ++ s =
        '\x7b' :: ("code".toList ++ (Block.Kind.code tag).argument) ++ '\x7d' :: s := by
      simp [marker_eq]
    rw [hsplit]
    refine Text.takeWhile_append_of_stop (forall_ne_iff.2 ?_) rfl
    simp [not_mem_argument (by decide) h.2]
  have hwords := hfront (s := s) ht
  rw [h, hfront hl] at hwords
  have harg : (Block.Kind.code l).argument = (Block.Kind.code tag).argument := by simpa using hwords
  by_cases htag : tag = [] <;> by_cases hlang : l = [] <;>
    simp_all [Block.Kind.argument]

/-- Within a marker no other marker begins. -/
lemma avoids_marker (hW : ∀ w, W w → ∃ l, Braceless l ∧ l ≠ tag ∧ w = marker l)
    (h : Braceless tag) : Text.Avoids W (marker tag) r := by
  intro v hv hne w hw hpre
  obtain ⟨l, hl, hother, rfl⟩ := hW w hw
  rw [marker_eq tag] at hv
  rcases List.suffix_cons_iff.1 hv with rfl | hv
  · obtain ⟨t, ht⟩ := hpre
    exact hother (marker_inj hl h ht)
  · -- the only opening brace of the marker is its first character
    obtain ⟨x, v, rfl⟩ := List.exists_cons_of_ne_nil hne
    rw [marker_eq, List.cons_append, List.cons_prefix_cons] at hpre
    have hbrace : '\x7b' ∉ "code".toList ++ (Block.Kind.code tag).argument ++ ['\x7d'] := by
      simp [not_mem_argument (by decide) h.1]
    exact hbrace (hpre.1 ▸ hv.subset List.mem_cons_self)

lemma word_prefix_of_isMarker {w : Text} (h : IsMarker w) : "\x7bcode".toList <+: w := by
  obtain ⟨tag, -, rfl⟩ := h
  exact ⟨(Block.Kind.code tag).argument ++ ['\x7d'], by simp [marker_eq]⟩

/-- No marker begins in a text without the beginning of all markers, up to a brace or the end. -/
lemma avoids_of_not_isInfix (h : ¬ "\x7bcode".toList <:+: s)
    (hr : r = [] ∨ r.head? = some '\x7b') : Text.Avoids IsMarker s r := by
  refine .of_not_isInfix (fun _ => word_prefix_of_isMarker) h fun c hc => ?_
  rcases hr with rfl | hr
  · cases hc
  · obtain rfl : '\x7b' = c := Option.some.inj (hr.symm.trans hc)
    decide

lemma Opens.isMarker {w : Text} (h : Opens w) : IsMarker w := by
  obtain ⟨tag, htag, rfl⟩ := h
  exact ⟨tag, htag.braceless, rfl⟩

/-! ## Reading a block -/

lemma codeOpening?_iff : codeOpening? s = some (l, u, r) ↔
    s = u ++ r ∧ u = marker l ∧ Supported l := by
  rw [codeOpening?_eq_some_iff]
  refine and_congr_right fun _ => ?_
  by_cases hl : l = []
  · subst hl
    simp [marker_nil, Supported]
  · have hmarker : marker l = "\x7bcode:".toList ++ l ++ "\x7d".toList := by
      simp [marker_eq, Block.Kind.argument, hl]
    rw [hmarker]
    simp only [hl, false_and, false_or, ne_eq, not_false_eq_true, true_and]
    exact and_comm

lemma exists_opens_of_read {m : Span (Text × Text)} (h : codeBlock.read b s = some m) :
    ∃ w, Opens w ∧ w <+: s := by
  obtain ⟨⟨l, u, r⟩, hopen, -⟩ := Option.bind_eq_some_iff.1 h
  obtain ⟨rfl, rfl, hl⟩ := codeOpening?_iff.1 hopen
  exact ⟨marker l, ⟨l, hl, rfl⟩, List.prefix_append _ _⟩

/-- A block reaches from a marker with a supported tag to the nearest marker without a tag. -/
lemma read_marker (h : Supported tag) : codeBlock.read b (marker tag ++ r) =
    (Text.cut? (marker []) r).map fun (c, t) => ⟨marker tag ++ c ++ marker [], (tag, c), t⟩ := by
  have hopen : codeOpening? (marker tag ++ r) = some (tag, marker tag, r) :=
    codeOpening?_iff.2 ⟨rfl, rfl, h⟩
  simp only [codeBlock, hopen, Option.bind_some, marker_nil]

/-- Behind a text in which no marker begins, a text is cut at the marker that follows. -/
lemma cut?_marker (h : Text.Avoids (· = marker []) s (marker [] ++ r)) :
    Text.cut? (marker []) (s ++ (marker [] ++ r)) = some (s, r) :=
  Text.cut?_append_of_not_isInfix (by decide) (h.not_isInfix rfl (List.cons_ne_nil _ _))

end Markers

/-! ## Documents -/

section Documents

variable {gs : List Segment} {tag c a r : Text} {b : Option Char} {f : Text × Text → Text}

lemma turned_cons_text {s : Text} : turned (.text s :: gs) = turned gs := by
  simp [turned, Segment.isBlock]

lemma turned_cons_block : turned (.block tag c :: gs) = fence := by
  simp [turned, Segment.isBlock]

/-- A text in which no marker begins is no part of a block. -/
lemma rewrites_of_avoids (h : Text.Avoids IsMarker a r) : codeBlock.Rewrites f b a a r :=
  Pattern.rewrites_of_avoids (fun _ _ _ => exists_opens_of_read) (h.mono fun _ => Opens.isMarker)

/-- A marker with a tag that is not supported is no part of a block. -/
lemma rewrites_unread (htag : Braceless tag) (h : ¬ Supported tag) :
    codeBlock.Rewrites f b (marker tag) (marker tag) r := by
  refine Pattern.rewrites_of_avoids (fun _ _ _ => exists_opens_of_read) (avoids_marker ?_ htag)
  rintro w ⟨l, hl, rfl⟩
  exact ⟨l, hl.braceless, fun heq => h (heq ▸ hl), rfl⟩

/-- What is written for a code block. -/
def fenced (block : Text × Text) : Text :=
  fence ++ block.1 ++ block.2 ++ fence

/-- What is written for a block that ends in front of `r`, if what follows it is known. -/
lemma rewrite_block (htag : Supported tag) (h : Text.Avoids (· = marker []) a (marker [] ++ r)) :
    codeBlock.rewrite fenced b (marker tag ++ (a ++ (marker [] ++ r))) =
      fence ++ tag ++ a ++ fence ++ codeBlock.rewrite fenced (some '\x7d') r := by
  have hread := read_marker (b := b) (r := a ++ (marker [] ++ r)) htag
  rw [cut?_marker h, Option.map_some] at hread
  have hlast : (marker tag ++ a ++ marker []).getLast? = some '\x7d' := by
    simp [List.getLast?_append, marker_nil]
  rw [rewrite_span hread, hlast]
  rfl

/-- A marker without a tag that no other one follows is text. -/
lemma rewrite_unclosed (h : Text.Avoids IsMarker a []) :
    codeBlock.rewrite fenced b (marker [] ++ a) = marker [] ++ a := by
  have hmarker : IsMarker (marker []) := ⟨[], by decide, rfl⟩
  have hcut : Text.cut? (marker []) a = none := by
    rw [← Option.not_isSome_iff_eq_none, Text.isSome_cut?_iff (by decide)]
    exact h.not_isInfix hmarker (by decide)
  have hnone : codeBlock.read b (marker [] ++ a) = none := by
    rw [read_marker (by decide), hcut, Option.map_none]
  have hfirst : codeBlock.Rewrites fenced b (marker []) (marker []) a :=
    opensWith_codeBlock.rewrites_cons (by decide) hnone
  have hrest : codeBlock.Rewrites fenced ((marker []).getLast?.or b) a a [] := rewrites_of_avoids h
  exact hfirst.rewrite_eq hrest.rewrite_eq_of_nil

/-- A document is read with no block open, or with one open whose content so far is `a`. -/
lemma Document.rewrite_source (h : Document gs) :
    (∀ b, codeBlock.rewrite fenced b (source gs) = written false gs) ∧
      ∀ a b, Text.Avoids IsMarker a (source gs) →
        codeBlock.rewrite fenced b (marker [] ++ (a ++ source gs)) =
          turned gs ++ (a ++ written (gs.any Segment.isBlock) gs) := by
  induction h with
  | nil =>
    refine ⟨fun b => rewrite_nil b, fun a b ha => ?_⟩
    have hsource : a ++ source [] = a := List.append_nil a
    rw [hsource, rewrite_unclosed ha]
    simp [turned, written]
  | @text s gs hs _ ih =>
    have hsource : source (.text s :: gs) = s ++ source gs := rfl
    refine ⟨fun b => ?_, fun a b ha => ?_⟩
    · have hself : codeBlock.Rewrites fenced b s s (source gs) := rewrites_of_avoids hs
      rw [hsource, hself, ih.1, written]
    · rw [hsource] at ha ⊢
      rw [← List.append_assoc a, ih.2 (a ++ s) b (ha.append hs), turned_cons_text, written,
        List.append_assoc]
      rfl
  | @block tag c gs htag hc _ ih =>
    have hsource : source (.block tag c :: gs) =
        marker tag ++ (c ++ (marker [] ++ source gs)) := by simp [source, Segment.source]
    have hcontent : Text.Avoids IsMarker c (marker [] ++ source gs) :=
      avoids_of_not_isInfix hc (.inr rfl)
    have hplain {s r : Text} (h : Text.Avoids IsMarker s r) : Text.Avoids (· = marker []) s r :=
      h.mono fun w hw => ⟨[], by decide, hw⟩
    -- where the marker at the end of the block finds no block to close
    have hbehind (b : Option Char) :
        codeBlock.rewrite fenced b (c ++ (marker [] ++ source gs)) =
          c ++ (turned gs ++ written (gs.any Segment.isBlock) gs) := by
      have hself : codeBlock.Rewrites fenced b c c (marker [] ++ source gs) :=
        rewrites_of_avoids hcontent
      have hmarker := ih.2 [] (c.getLast?.or b) .nil
      rw [List.nil_append, List.nil_append] at hmarker
      rw [hself, hmarker]
    refine ⟨fun b => ?_, fun a b ha => ?_⟩
    · rw [hsource, written]
      split
      · next hsup => rw [rewrite_block hsup (hplain hcontent), ih.1]
      · next hsup =>
        have hself : codeBlock.Rewrites fenced b (marker tag) (marker tag)
            (c ++ (marker [] ++ source gs)) := rewrites_unread htag hsup
        rw [hself, hbehind, List.append_assoc]
    · have hempty : Supported [] := by decide
      rw [turned_cons_block, List.any_cons, Segment.isBlock, Bool.true_or]
      rw [hsource] at ha ⊢
      cases tag with
      | nil =>
        rw [rewrite_block hempty (hplain ha), hbehind, written]
        simp
      | cons x tag =>
        have hother : Text.Avoids (· = marker []) (marker (x :: tag))
            (c ++ (marker [] ++ source gs)) :=
          avoids_marker (fun w hw => ⟨[], by decide, by simp, hw⟩) htag
        have hinner : Text.Avoids (· = marker []) (marker (x :: tag) ++ c)
            (marker [] ++ source gs) := hother.append (hplain hcontent)
        have hall : Text.Avoids (· = marker []) (a ++ (marker (x :: tag) ++ c))
            (marker [] ++ source gs) := .append (by simpa using hplain ha) hinner
        have hassoc : a ++ (marker (x :: tag) ++ (c ++ (marker [] ++ source gs))) =
            a ++ (marker (x :: tag) ++ c) ++ (marker [] ++ source gs) := by simp
        rw [hassoc, rewrite_block hempty hall, ih.1, written]
        simp

/-! ## Blocks that are not read -/

/-- No block follows one that is not read. -/
def UnreadLast (gs : List Segment) : Prop :=
  gs.Pairwise fun g g' => g.isUnread = true → g'.isBlock = false

instance : DecidablePred UnreadLast := fun gs =>
  inferInstanceAs (Decidable (gs.Pairwise fun g g' => g.isUnread = true → g'.isBlock = false))

/-- Without blocks there is nothing to write. -/
lemma written_of_no_block {opened : Bool} (h : gs.any Segment.isBlock = false) :
    written opened gs = independent gs := by
  induction gs with
  | nil => simp [written, independent]
  | cons g gs ih =>
    obtain ⟨hg, hgs⟩ : g.isBlock = false ∧ gs.any Segment.isBlock = false := by simpa using h
    cases g with
    | text s =>
      rw [written, ih hgs]
      rfl
    | block tag c => cases hg

lemma independent_cons {g : Segment} : independent (g :: gs) = g.alone ++ independent gs :=
  rfl

lemma written_eq_independent_iff : written false gs = independent gs ↔ UnreadLast gs := by
  induction gs with
  | nil => exact iff_of_true rfl .nil
  | cons g gs ih =>
    rw [UnreadLast, List.pairwise_cons, ← UnreadLast, ← ih, independent_cons]
    cases g with
    | text s => simp [written, Segment.alone, Segment.isUnread]
    | block tag c =>
      by_cases htag : Supported tag
      · simp [written, Segment.alone, Segment.isUnread, htag]
      · have hunread : (Segment.block tag c).isUnread = true := by simpa [Segment.isUnread] using htag
        simp only [written, Segment.alone, if_neg htag, List.append_assoc,
          List.append_cancel_left_eq, hunread, forall_const]
        cases hany : gs.any Segment.isBlock with
        | false =>
          have hgs : ∀ g ∈ gs, g.isBlock = false := by simpa using hany
          rw [turned, hany, written_of_no_block hany]
          exact iff_of_true rfl ⟨hgs, rfl⟩
        | true =>
          -- the marker behind the content is written as a fence
          obtain ⟨g, hg, hblock⟩ := List.any_eq_true.1 hany
          refine iff_of_false (fun heq => ?_) fun hall => ?_
          · rw [turned, hany] at heq
            simpa [fence, marker_nil] using congrArg List.head? heq
          · simpa [hblock] using hall.1 g hg

end Documents

/-- What is written for a document of texts and code blocks: the blocks change their parts behind one
that is not read. They are written independently of each other exactly if no block follows one that is
not read. -/
theorem writeCodeBlocks_document (gs : List Segment) (h : Document gs) :
    writeCodeBlocks (source gs) = written false gs ∧
      (writeCodeBlocks (source gs) = independent gs ↔ UnreadLast gs) := by
  have hwritten : writeCodeBlocks (source gs) = written false gs := h.rewrite_source.1 none
  rw [hwritten]
  exact ⟨rfl, written_eq_independent_iff⟩

/-- Blocks with and without a tag, and at the end one whose tag is no language. -/
theorem writeCodeBlocks_document_unreadLast :
    writeCodeBlocks ("\x7bcode:sql\x7dselect 1\x7bcode\x7d and \x7bcode\x7dy\x7bcode\x7d" ++
        "\x7bcode:Java\x7dx\x7bcode\x7d.").toList =
      "```sqlselect 1``` and ```y```\x7bcode:Java\x7dx\x7bcode\x7d.".toList := by
  refine (writeCodeBlocks_document [.block "sql".toList "select 1".toList, .text " and ".toList,
    .block [] "y".toList, .block "Java".toList "x".toList, .text ".".toList] ?_).2.2 (by decide)
  refine .block (by decide) (by decide) ?_
  refine .text (avoids_of_not_isInfix (by decide) (.inr rfl)) ?_
  refine .block (by decide) (by decide) ?_
  refine .block (by decide) (by decide) ?_
  exact .text (avoids_of_not_isInfix (by decide) (.inl rfl)) .nil

/-- Behind a block whose tag is no language, the text between two blocks is written as a block. -/
theorem writeCodeBlocks_shifted :
    Document [.block "Java".toList "x".toList, .text " and ".toList, .block [] "y".toList] ∧
      source [.block "Java".toList "x".toList, .text " and ".toList, .block [] "y".toList] =
        "\x7bcode:Java\x7dx\x7bcode\x7d and \x7bcode\x7dy\x7bcode\x7d".toList ∧
      writeCodeBlocks "\x7bcode:Java\x7dx\x7bcode\x7d and \x7bcode\x7dy\x7bcode\x7d".toList =
        "\x7bcode:Java\x7dx``` and ```y\x7bcode\x7d".toList ∧
      independent [.block "Java".toList "x".toList, .text " and ".toList, .block [] "y".toList] =
        "\x7bcode:Java\x7dx\x7bcode\x7d and ```y```".toList := by
  refine ⟨?_, by decide, by decide +kernel, by decide⟩
  refine .block (by decide) (by decide) ?_
  refine .text (avoids_of_not_isInfix (by decide) (.inr rfl)) ?_
  exact .block (by decide) (by decide) .nil

end Wikidown.Code
