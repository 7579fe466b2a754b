import Wikidown.Batch.Job
import Wikidown.Batch.Load
import Wikidown.Output

/-!
# Executing a batch

All jobs are made concrete before the first one is executed; then each source is read, converted and
written in turn. The first failure ends the batch.
-/

namespace Wikidown.Batch

/-- What a job has led to. -/
structure Result where
  source : String
  output : Option Path
  markdown : CodeText
deriving DecidableEq, Repr

/-- The line that stands for a result: the file that was written, or the Markdown itself. -/
def Result.line (r : Result) : CodeText :=
  match r.output with
  | some p => .ofText p.toString.toList
  | none => r.markdown

/-- The choices of a batch's conversions. -/
def options (spec : Spec) (c : Config) : Options :=
  ⟨spec.defaults.strikethrough.getD c.strikethrough⟩

/-- Executes a job. -/
def perform (c : Config) (o : Options) (job : Job) : Run Result := do
  let markdown ← Run.sourceMarkdown c job.charset o job.source
  if let some p := job.output then Run.writeFile markdown p
  Run.emit (.jobCompleted job.source job.output)
  return ⟨job.source, job.output, markdown⟩

/-- Executes a batch specification. -/
def execute (spec : Spec) (c : Config) : Run (List Result) := do
  (← jobs spec c).mapM (perform c (options spec c))

/-- Loads a batch specification, executes it, and gives the lines of its results. -/
def executeFile (path : String) (c : Config) : Run (List CodeText) := do
  return (← execute (← Run.loadSpec path) c).map Result.line

end Wikidown.Batch
