import Wikidown.Markup.Pattern

/-!
# Links

A piped link holds a label and a target, a bare link a label only. Piped links are replaced first,
and their labels are then protected from the second pass by the parenthesis that follows them.
-/

namespace Wikidown.Markup

open Pattern

/-- What may stand in a label: no bracket and no line feed. -/
def isLabelChar (c : Char) : Bool :=
  c != '[' && c != ']' && c != '\n'

/-- What may stand in the target of a piped link. -/
def isTargetChar (c : Char) : Bool :=
  c != ']' && c != '\n'

/-- A label and a target in brackets, with a bar between them. -/
def pipedLink : Pattern (Text × Text) where
  read _ s :=
    ((around '[' [] (fun c => isLabelChar c && c != '|') "|".toList).read none s).bind fun label =>
      let target := label.rest.takeWhile isTargetChar
      if target = [] then none else
        (Text.after? "]".toList (label.rest.dropWhile isTargetChar)).map fun r =>
          ⟨label.source ++ target ++ "]".toList, (label.captured, target), r⟩
  splits h := by
    obtain ⟨label, hl, e⟩ := Option.bind_eq_some_iff.1 h
    obtain ⟨hne, hs⟩ := Pattern.splits _ hl
    simp only at e
    split at e
    · cases e
    · obtain ⟨r, hr, rfl⟩ := Option.map_eq_some_iff.1 e
      refine ⟨by simp [hne], ?_⟩
      rw [hs]
      simp only [List.append_assoc, ← Text.after?_eq_some_iff.1 hr,
        List.takeWhile_append_dropWhile]

/-- A label in brackets that no parenthesis follows. -/
def bareLink : Pattern Text :=
  (around '[' [] isLabelChar "]".toList).filter fun _ _ rest => rest.head? != some '('

/-- Writes piped links with their target in parentheses. -/
def convertPipedLinks : Text → Text :=
  pipedLink.replace fun (label, target) =>
    "[".toList ++ label ++ "](".toList ++ target ++ ")".toList

/-- Writes bare links in angle brackets. -/
def convertBareLinks : Text → Text :=
  bareLink.replace fun label => "<".toList ++ label ++ ">".toList

/-- Writes piped links and then the bare links left over. -/
def writeLinks (s : Text) : Text :=
  convertBareLinks (convertPipedLinks s)

end Wikidown.Markup
