import Wikidown.Config

/-!
# Fields

How the fields of a mapping are read. A field that is null counts as absent, texts lose the blanks at
their ends, and a blank text counts as absent too.
-/

namespace Wikidown.Batch

/-- The fields of a mapping whose keys are texts. -/
abbrev Fields := List (String × Value)

/-- Refuses a batch specification. -/
def refuse {α : Type} (e : SpecError) : Except Failure α :=
  .error (.spec e)

namespace Fields

/-- The fields of a value that should be a mapping with texts as keys. -/
def ofValue (place : Place) : Value → Except Failure Fields
  | .mapping fields =>
    fields.mapM fun (key, value) =>
      match key with
      | .string name => .ok (name, value)
      | key => refuse (.keyNotText place key.kind)
  | v => refuse (.notMapping place v.kind)

/-- Refuses fields other than the allowed ones. -/
def restrict (place : Place) (allowed : List String) (fields : Fields) : Except Failure Unit :=
  match (fields.map (·.1)).filter fun name => !allowed.contains name with
  | [] => .ok ()
  | unknown => refuse (.unknownFields place (unknown.mergeSort fun a b => decide (a ≤ b)))

/-- The value of a field that is there and not null. -/
def get? (fields : Fields) (name : String) : Option Value :=
  match fields.lookup name with
  | some .null => none
  | v => v

/-- A text that may be absent. -/
def text? (fields : Fields) (name : String) : Except Failure (Option String) :=
  match fields.get? name with
  | none => .ok none
  | some (.string s) => .ok (if stripped s = "" then none else some (stripped s))
  | some _ => refuse (.fieldNotText name)

/-- A text that has to be there. -/
def text (fields : Fields) (name : String) : Except Failure String := do
  match ← fields.text? name with
  | some s => return s
  | none => refuse (.missingField name)

/-- A truth value that may be absent. -/
def bool? (fields : Fields) (name : String) : Except Failure (Option Bool) :=
  match fields.get? name with
  | none => .ok none
  | some (.bool b) => .ok (some b)
  | some _ => refuse (.fieldNotBoolean name)

/-- A failure of a setting as a failure of the batch specification that holds it. -/
def asSpecFailure : Failure → Failure
  | .config e => .spec (.charset e)
  | f => f

/-- The name of an encoding that may be absent. -/
def charset? (fields : Fields) (name : String) : Except Failure (Option String) := do
  match ← fields.text? name with
  | none => return none
  | some s =>
    let charset ←
      (Config.readCharset s!"run-spec field '{name}'" s).mapError asSpecFailure
    return some charset

end Fields

end Wikidown.Batch
