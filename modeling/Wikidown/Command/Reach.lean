import Wikidown.Command.Execution

/-!
# What a command touches

The paths that a command line makes a run read or write. They are found in a session that holds the
files known so far: the jobs of a batch are known as soon as its specification is.
-/

namespace Wikidown.Command

/-- The paths that are read, and those that are written. -/
structure Reach where
  sources : List Path
  outputs : List Path
deriving DecidableEq, Repr

namespace Reach

/-- Nothing is touched. -/
def nothing : Reach :=
  ⟨[], []⟩

/-- The path of a source, if it is local. -/
def pathOfSource (source : String) : Run (List Path) := do
  if Address.isRemote source then return []
  else return [← Run.expandHome (Path.ofString source)]

/-- What some jobs touch. -/
def ofJobs (jobs : List Batch.Job) : Run Reach := do
  return ⟨(← jobs.mapM fun job => pathOfSource job.source).flatten, jobs.filterMap (·.output)⟩

/-- What the jobs of a batch specification touch. -/
def ofSpec (file : String) (c : Config) : Run Reach := do
  let spec ← Run.loadSpec file
  let dir ← Batch.outputDir spec
  ofJobs (← spec.entries.mapM (Batch.jobOf spec c dir))

/-- What a task touches besides what is read from a batch specification. -/
def ofTask : Task → Run Reach
  | .convert input _ output _ => return ⟨← pathOfSource input, output.toList⟩
  | .runSpec file => return ⟨← pathOfSource file, []⟩

/-- What the jobs of a task touch. -/
def ofTaskJobs (i : Invocation) : Run Reach := do
  match i.task with
  | .convert .. => return nothing
  | .runSpec file => ofSpec file (← settings i.level)

/-- What an activity finds to be touched; nothing, if it fails. -/
def find (activity : Run Reach) (s : Session) : Reach :=
  match activity.run s with
  | (.ok r, _) => r
  | (.error _, _) => nothing

end Reach

end Wikidown.Command
