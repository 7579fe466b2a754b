import Wikidown.Batch.Fields

/-!
# Batch specifications

A batch specification names its version, defaults for all jobs, and at least one job. A job is a
mapping with an input, or the input alone. The root is checked first, then the version, the defaults
and the jobs in their order; the first fault is reported.
-/

namespace Wikidown.Batch

/-- What holds for all jobs that do not say otherwise. -/
structure Defaults where
  charset : Option String := none
  strikethrough : Option Bool := none
  outputDir : Option String := none
deriving DecidableEq, Repr

/-- A job as it is written. -/
structure Entry where
  input : String
  output : Option String := none
  charset : Option String := none
deriving DecidableEq, Repr

/-- A batch specification. Its paths are relative to its base directory. -/
structure Spec where
  defaults : Defaults
  entries : List Entry
  base : Path
deriving DecidableEq, Repr

namespace Spec

/-- The only version. -/
def version : Int :=
  1

/-- How many digits a number may have to be written in a message. -/
def maxWritten : Nat :=
  4300

/-- Checks the version. -/
def checkVersion (fields : Fields) : Except Failure Unit :=
  match fields.get? "version" with
  | some (.int n) =>
    if n = version then .ok ()
    else if maxWritten < (toString n.natAbs).length then .error (.fault .longNumber)
    else refuse (.unsupportedVersion n)
  | _ => refuse .versionNotInteger

/-- The defaults. -/
def defaultsOf (fields : Fields) : Except Failure Defaults :=
  match fields.get? "defaults" with
  | none => .ok {}
  | some v => do
    let fields ← Fields.ofValue .defaults v
    fields.restrict .defaults ["charset", "strikethrough", "output_dir"]
    let charset ← fields.charset? "charset"
    let strikethrough ← fields.bool? "strikethrough"
    let outputDir ← fields.text? "output_dir"
    return ⟨charset, strikethrough, outputDir⟩

/-- A job; `number` counts from one. -/
def entryOf (v : Value) (number : Nat) : Except Failure Entry :=
  match v with
  | .string s => do
    let input ← Fields.text [("input", .string s)] "input"
    return { input }
  | v => do
    let fields ← Fields.ofValue (.job number) v
    fields.restrict (.job number) ["input", "output", "charset"]
    let input ← fields.text "input"
    let output ← fields.text? "output"
    let charset ← fields.charset? "charset"
    return ⟨input, output, charset⟩

/-- The jobs. -/
def entriesOf (fields : Fields) : Except Failure (List Entry) :=
  match fields.get? "jobs" with
  | none => refuse .noJobs
  | some (.list []) | some (.tuple []) => refuse .emptyJobs
  | some (.list items) | some (.tuple items) =>
    (items.zipIdx 1).mapM fun (v, number) => entryOf v number
  | some v => refuse (.jobsNotList v.kind)

/-- The batch specification that a value is. -/
def ofValue (base : Path) (v : Value) : Except Failure Spec := do
  let fields ← Fields.ofValue .root v
  fields.restrict .root ["version", "defaults", "jobs"]
  checkVersion fields
  let defaults ← defaultsOf fields
  let entries ← entriesOf fields
  return ⟨defaults, entries, base⟩

end Spec

end Wikidown.Batch
