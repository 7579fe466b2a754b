import Wikidown.Markup.Line

/-!
# Blocks

Code, quotes, text kept without format and coloured text. A block is opened and closed by markers
in braces, reaches over any number of lines and ends at the nearest closing marker.
-/

namespace Wikidown.Markup

open Pattern

/-- The fence around code. -/
def fence : Text :=
  "```".toList

/-- The characters of a language's name. -/
def isLanguageChar (c : Char) : Bool :=
  'a' ≤ c && c ≤ 'z'

/-- The language named by the opening marker of a code block (empty if it names none), the source
of the marker, and the text behind it. -/
def codeOpening? (s : Text) : Option (Text × Text × Text) :=
  (Text.after? "\x7bcode".toList s).bind fun t =>
    match Text.after? "\x7d".toList t with
    | some r => some ([], "\x7bcode\x7d".toList, r)
    | none =>
      (Text.after? ":".toList t).bind fun u =>
        let language := u.takeWhile isLanguageChar
        if language = [] then none else
          (Text.after? "\x7d".toList (u.dropWhile isLanguageChar)).map fun r =>
            (language, "\x7bcode:".toList ++ language ++ "\x7d".toList, r)

theorem codeOpening?_splits {s l o r : Text} (h : codeOpening? s = some (l, o, r)) :
    o ≠ [] ∧ s = o ++ r := by
  obtain ⟨t, ht, h⟩ := Option.bind_eq_some_iff.1 h
  rw [Text.after?_eq_some_iff.1 ht]
  split at h
  · next r' hr =>
    cases h
    rw [Text.after?_eq_some_iff.1 hr]
    exact ⟨by decide, by simp⟩
  · obtain ⟨u, hu, h⟩ := Option.bind_eq_some_iff.1 h
    simp only at h
    split at h
    · cases h
    · obtain ⟨r', hr, e⟩ := Option.map_eq_some_iff.1 h
      cases e
      refine ⟨by simp, ?_⟩
      rw [Text.after?_eq_some_iff.1 hu]
      simp only [List.append_assoc, ← Text.after?_eq_some_iff.1 hr,
        List.takeWhile_append_dropWhile]
      simp

/-- A code block: the language that it names, and its content up to the nearest closing marker. -/
def codeBlock : Pattern (Text × Text) where
  read _ s :=
    (codeOpening? s).bind fun (language, opening, t) =>
      (Text.cut? "\x7bcode\x7d".toList t).map fun (content, r) =>
        ⟨opening ++ content ++ "\x7bcode\x7d".toList, (language, content), r⟩
  splits h := by
    obtain ⟨⟨l, o, t⟩, ho, h⟩ := Option.bind_eq_some_iff.1 h
    obtain ⟨⟨c, r⟩, hc, rfl⟩ := Option.map_eq_some_iff.1 h
    obtain ⟨hne, rfl⟩ := codeOpening?_splits ho
    exact ⟨by simp, by simp [Text.cut?_eq_some hc]⟩

/-- Writes code blocks between fences, with the language behind the first. -/
def writeCodeBlocks : Text → Text :=
  codeBlock.replace fun (language, content) => fence ++ language ++ content ++ fence

/-- A quote reaches from one quote marker to the next. -/
def quoteBlock : Pattern Text where
  read _ s :=
    (Text.after? "\x7bquote\x7d".toList s).bind fun t =>
      (Text.cut? "\x7bquote\x7d".toList t).map fun (content, r) =>
        ⟨"\x7bquote\x7d".toList ++ content ++ "\x7bquote\x7d".toList, content, r⟩
  splits h := by
    obtain ⟨t, ht, h⟩ := Option.bind_eq_some_iff.1 h
    obtain ⟨⟨c, r⟩, hc, rfl⟩ := Option.map_eq_some_iff.1 h
    exact ⟨by simp, by simp [Text.after?_eq_some_iff.1 ht, Text.cut?_eq_some hc]⟩

/-- A text without the line break at its beginning. -/
def dropLeadingBreak : Text → Text
  | '\n' :: s => s
  | '\r' :: '\n' :: s => s
  | s => s

/-- A text without the line break at its end. -/
def dropTrailingBreak (s : Text) : Text :=
  match s.reverse with
  | '\n' :: '\r' :: r => r.reverse
  | '\n' :: r => r.reverse
  | _ => s

/-- Lines without the empty ones at the end; the first line stays. -/
def dropEmptyTail : List Text → List Text
  | [] => []
  | l :: ls => l :: (ls.reverse.dropWhile List.isEmpty).reverse

/-- The lines of a quote. The break behind the opening marker and the break before the closing one
belong to the markers. -/
def quoteLines (content : Text) : List Text :=
  dropEmptyTail (Text.lines (dropTrailingBreak (dropLeadingBreak content)))

/-- Writes the lines of a quote, each with a quote mark. -/
def renderQuote (content : Text) : Text :=
  Text.unlines ((quoteLines content).map fun l => quoteMark ++ l)

/-- Writes quote blocks as quoted lines. -/
def writeQuoteBlocks : Text → Text :=
  quoteBlock.replace renderQuote

/-- Writes every marker of unformatted text as a fence. -/
def writeNoFormat : Text → Text :=
  (marker '\x7b' "noformat\x7d".toList).replace fun _ => fence

/-- Coloured text: the name of the colour, and the content up to the nearest closing marker. -/
def colorSpan : Pattern (Text × Text) where
  read _ s :=
    ((around '\x7b' "color:".toList (· != '\x7d') "\x7d".toList).read none s).bind fun opening =>
      (Text.cut? "\x7bcolor\x7d".toList opening.rest).map fun (content, r) =>
        ⟨opening.source ++ content ++ "\x7bcolor\x7d".toList, (opening.captured, content), r⟩
  splits h := by
    obtain ⟨o, ho, h⟩ := Option.bind_eq_some_iff.1 h
    obtain ⟨⟨c, r⟩, hc, rfl⟩ := Option.map_eq_some_iff.1 h
    obtain ⟨hne, rfl⟩ := Pattern.splits _ ho
    exact ⟨by simp, by simp [Text.cut?_eq_some hc]⟩

/-- Writes coloured text as a styled element. -/
def writeColors : Text → Text :=
  colorSpan.replace fun (color, content) =>
    "<span style=\"color:".toList ++ color ++ "\">".toList ++ content ++ "</span>".toList

end Wikidown.Markup
