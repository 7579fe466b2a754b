import Wikidown.Batch.Spec
import Wikidown.Source

/-!
# Jobs

The jobs of a batch specification, made concrete: local paths become absolute, outputs that are not
named get the name of the input in the output directory, and every job has an encoding. No two jobs
may write to the same file.
-/

namespace Wikidown.Batch

/-- What is to be converted: a source, the file to write, and the encoding of the source. -/
structure Job where
  source : String
  output : Option Path
  charset : String
deriving DecidableEq, Repr

/-- A path of a batch specification, seen from a directory. -/
def localPath (base : Path) (written : String) : Run Path := do
  return base.join (← Run.expandHome (Path.ofString written))

/-- The directory for outputs. -/
def outputDir (spec : Spec) : Run (Option Path) :=
  match spec.defaults.outputDir with
  | none => return none
  | some written => return some (← localPath spec.base written)

/-- The source of an entry. -/
def sourceOf (base : Path) (input : String) : Run String := do
  if Address.isRemote input then return input else return (← localPath base input).toString

/-- The last name of an input without its suffix. -/
def stemOf (input : String) : Except Failure String :=
  if Address.isRemote input then (Address.parse input).map fun a => (Path.ofString a.key).stem
  else .ok (Path.ofString input).stem

/-- The ending of derived outputs. -/
def suffix : String :=
  ".md"

/-- The output of an entry, given the directory for outputs. -/
def outputOf (base : Path) (dir : Option Path) (entry : Entry) : Run (Option Path) := do
  match entry.output, dir with
  | some written, dir => return some (← localPath (dir.getD base) written)
  | none, none => return none
  | none, some dir => return some (dir.append [(← Run.ofExcept (stemOf entry.input)) ++ suffix])

/-- The job of an entry. -/
def jobOf (spec : Spec) (c : Config) (dir : Option Path) (entry : Entry) : Run Job := do
  let source ← sourceOf spec.base entry.input
  let output ← outputOf spec.base dir entry
  return ⟨source, output, (entry.charset <|> spec.defaults.charset).getD c.charset⟩

/-- Notes the output of a job among those reserved before, each with the source that is written
there. -/
def reserve (reserved : List (Path × String)) (job : Job) : Run (List (Path × String)) := do
  match job.output with
  | none => return reserved
  | some output =>
    let target ← Run.resolve output
    match reserved.lookup target with
    | some first => throw (.spec (.collision first job.source output))
    | none => return (target, job.source) :: reserved

/-- The jobs of some entries, whose outputs have to differ from those reserved before. -/
def jobsFrom (spec : Spec) (c : Config) (dir : Option Path) :
    List Entry → List (Path × String) → Run (List Job)
  | [], _ => return []
  | entry :: entries, reserved => do
    let job ← jobOf spec c dir entry
    let reserved ← reserve reserved job
    return job :: (← jobsFrom spec c dir entries reserved)

/-- The jobs of a batch specification. -/
def jobs (spec : Spec) (c : Config) : Run (List Job) := do
  jobsFrom spec c (← outputDir spec) spec.entries []

end Wikidown.Batch
