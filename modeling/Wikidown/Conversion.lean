import Wikidown.Session

/-!
# Conversion in a session

The conversion of a document, with its events: one for each rule, and one at the end. A document that
was decoded may hold lone surrogates; the rules move them as they are.
-/

namespace Wikidown

/-- Converts a text that may hold lone surrogates. -/
def CodeText.convert (o : Options) (s : CodeText) : CodeText :=
  Rule.all.foldl (fun t r => t.rewrite (r.apply o)) s

/-- Converting a text of characters is converting its characters. -/
@[simp] theorem CodeText.convert_ofText (o : Options) (s : Text) :
    (ofText s).convert o = ofText (Wikidown.convert o s) := by
  rw [convert, Wikidown.convert]
  generalize Rule.all = rs
  induction rs generalizing s with
  | nil => rfl
  | cons r rs ih => rw [List.foldl_cons, List.foldl_cons, rewrite_ofText, ih]

/-- Applies a rule and reports whether it changed the document. -/
def Rule.perform (o : Options) (s : CodeText) (r : Rule) : Run CodeText := do
  Run.emit (.ruleApplied r (s.rewrite (r.apply o) != s))
  return s.rewrite (r.apply o)

/-- Converts a document and reports it. -/
def performConversion (o : Options) (s : CodeText) : Run CodeText := do
  let result ← Rule.all.foldlM (Rule.perform o) s
  Run.emit (.converted s.length result.length)
  return result

/-- The document that a value is. -/
def documentOf : Value → Except Failure Text
  | .string s => .ok s.toList
  | .null => .error (.input .absent)
  | v => .error (.input (.notText v.kind))

end Wikidown
