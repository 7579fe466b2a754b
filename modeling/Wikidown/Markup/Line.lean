import Wikidown.Markup.Pattern

/-!
# Quoted lines, list items and headers

The three forms that a mark at the beginning of a line makes of the whole line. The rest of the line
reaches up to the next line feed.
-/

namespace Wikidown.Markup

open Pattern

/-- Everything up to the end of the line. -/
def inLine (c : Char) : Bool :=
  c != '\n'

/-- The mark of a quoted line in the written document. -/
def quoteMark : Text :=
  "> ".toList

/-- A quoted line begins with `bq.`. -/
def quotedLine : Pattern Text :=
  (between 'b' "q.".toList inLine []).atLineStart

/-- Writes quoted lines with a quote mark. -/
def writeQuotedLines : Text → Text :=
  quotedLine.replace fun content => quoteMark ++ content

/-- The characters of which a list run is made. -/
def isListMark (c : Char) : Bool :=
  c == '#' || c == '*' || c == '+' || c == '-'

/-- A list item begins with a run of list marks and a space. -/
def listItem : Pattern (Text × Text) :=
  atLineStart {
    read := fun _ s =>
      let run := s.takeWhile isListMark
      if run = [] then none else
        (Text.after? " ".toList (s.dropWhile isListMark)).map fun t =>
          ⟨run ++ " ".toList ++ t.takeWhile inLine, (run, t.takeWhile inLine), t.dropWhile inLine⟩
    splits := by
      intro b s m h
      simp only at h
      split at h
      · cases h
      · next hrun =>
        obtain ⟨t, ht, rfl⟩ := Option.map_eq_some_iff.1 h
        refine ⟨by simp, ?_⟩
        simp only [List.append_assoc, List.takeWhile_append_dropWhile,
          ← Text.after?_eq_some_iff.1 ht] }

/-- How far an item with a run of `n` marks is indented: four columns for each level below the
first, and two more. -/
def listIndent (n : Int) : Int :=
  if n ≤ 1 then 2 else (n - 1) * 4 + 2

/-- The last mark of a run says whether the item is numbered. -/
def itemMarker (run : Text) : Text :=
  if run.getLast? = some '#' then "1.".toList else "-".toList

/-- Writes an item with its indent and its marker. -/
def renderItem (run content : Text) : Text :=
  List.replicate (listIndent run.length).toNat ' ' ++ itemMarker run ++ " ".toList ++ content

/-- Writes list items with indent and marker. -/
def writeLists : Text → Text :=
  listItem.replace fun (run, content) => renderItem run content

/-- The level that a header's digit stands for. -/
def headerLevel? (c : Char) : Option Nat :=
  if '0' ≤ c ∧ c ≤ '6' then some (c.toNat - '0'.toNat) else none

/-- A header line begins with `h`, a digit up to six and a dot. -/
def headerLine : Pattern (Nat × Text) :=
  atLineStart {
    read := fun _ s =>
      match s with
      | 'h' :: d :: '.' :: t =>
        (headerLevel? d).map fun n =>
          ⟨'h' :: d :: '.' :: t.takeWhile inLine, (n, t.takeWhile inLine), t.dropWhile inLine⟩
      | _ => none
    splits := by
      intro b s m h
      split at h
      · obtain ⟨n, hn, rfl⟩ := Option.map_eq_some_iff.1 h
        exact ⟨List.cons_ne_nil _ _, by simp⟩
      · cases h }

/-- Writes a header of level `n` with `n + 1` hashes. -/
def writeHeaders : Text → Text :=
  headerLine.replace fun (n, content) => List.replicate (n + 1) '#' ++ content

end Wikidown.Markup
