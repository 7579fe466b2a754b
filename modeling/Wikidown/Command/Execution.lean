import Wikidown.Batch.Execution
import Wikidown.Command.Interface

/-!
# Carrying out a command line

The settings come from the variables, and the level of the log may be given on the command line. A
foreseen failure is reported in one line and gives the status of a run that failed; any other failure
goes on.
-/

namespace Wikidown.Command

/-- The status of a run that did what it was asked for. -/
def success : Nat :=
  0

/-- The status of a run that failed. -/
def failed : Nat :=
  1

/-- The status of a run whose command line cannot be read. -/
def misused : Nat :=
  2

/-- Writes to the error output. -/
def complain (text : String) : Run Unit :=
  modify fun s => { s with complaints := s.complaints ++ text }

/-- The settings of a run. -/
def settings (level : Option String) : Run Config := do
  let c ← Run.config
  match level with
  | none | some "" => return c
  | some l => return { c with level := ← Run.ofExcept (Config.readLevel "--log-level" l) }

/-- Converts one source. The name of an encoding counts as absent if it is empty. -/
def convertOne (c : Config) (input : String) (charset : Option String) (output : Option Path)
    (strikethrough : Bool) : Run Unit := do
  let charset ←
    match charset with
    | none | some "" => pure c.charset
    | some name => Run.ofExcept (Config.readCharset "--charset" name)
  let markdown ← Run.sourceMarkdown c charset ⟨strikethrough || c.strikethrough⟩ input
  Run.deliver markdown output
  if let some p := output then Run.printLine p.toString

/-- Carries out a task. -/
def Task.run (c : Config) : Task → Run Unit
  | convert input charset output strikethrough => convertOne c input charset output strikethrough
  | runSpec file => do (← Batch.executeFile file c).forM Run.printText

/-- Carries out what a command line asks for. -/
def Invocation.run (i : Invocation) : Run Unit := do
  let c ← settings i.level
  modify fun s => { s with threshold := c.level.number }
  i.task.run c

/-- Reports a foreseen failure and gives the status. -/
def report (activity : Run Unit) : Run Nat :=
  tryCatch (do activity; return success) fun e => do
    if e.isForeseen then
      complain s!"error: {e.message}\n"
      return failed
    else throw e

/-- Says why a command line was not read to its end, and gives the status. -/
def Stop.report : Stop → Run Nat
  | usage g message => do
    complain s!"{g.usage}\n{g.program}: error: {message}\n"
    return misused
  | help g => do
    Run.printLine s!"{g.usage}\n\n{g.help}"
    return success
  | version => do
    Run.printLine versionLine
    return success

/-- Carries out a command line and gives the status. -/
def run (args : List String) : Run Nat :=
  match readInvocation args with
  | .ok i => report i.run
  | .error stop => stop.report

end Wikidown.Command
