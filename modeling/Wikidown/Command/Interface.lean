import Wikidown.Command.Arguments
import Wikidown.Files.Path

/-!
# The command line

The two commands, what their command lines can hold, and the help about them.
-/

namespace Wikidown.Command

/-- What a command line asks for. -/
inductive Task
  | convert (input : String) (charset : Option String) (output : Option Path)
      (strikethrough : Bool)
  | runSpec (file : String)
deriving DecidableEq, Repr

/-- A task, and the level of the log if it is given. -/
structure Invocation where
  level : Option String
  task : Task
deriving DecidableEq, Repr

/-- The version of the program. -/
def version : String :=
  "1.0.0"

/-- What asking for the version prints. -/
def versionLine : String :=
  s!"jiramd {version}"

/-- The option that asks for help. -/
def helpChoice : Choice :=
  { names := ["-h", "--help"], effect := .help }

/-- The text of some lines. -/
def ofLines (lines : List String) : String :=
  "\n".intercalate lines

/-- The whole command line. -/
def mainGrammar : Grammar where
  program := "jiramd"
  usage := "usage: jiramd [-h] [-V] [--log-level LOG_LEVEL] \x7bconvert,run-spec\x7d ..."
  help := ofLines [
    "Convert Jira wiki markup to Markdown",
    "",
    "positional arguments:",
    "  \x7bconvert,run-spec\x7d",
    "    convert             Convert one markup file to Markdown",
    "    run-spec            Convert every job of a declarative YAML batch spec",
    "",
    "options:",
    "  -h, --help            show this help message and exit",
    "  -V, --version         show program's version number and exit",
    "  --log-level LOG_LEVEL",
    "                        Override JIRAMD_LOG_LEVEL for this command"]
  choices := [
    helpChoice,
    { names := ["-V", "--version"], effect := .version },
    { names := ["--log-level"], effect := .value "log_level" }]
  positional := .command "command" ["convert", "run-spec"]

/-- The command line of the conversion of one source. -/
def convertGrammar : Grammar where
  program := "jiramd convert"
  usage :=
    "usage: jiramd convert [-h] -i INPUT [-c CHARSET] [-o OUTPUT] [--strikethrough]"
  help := ofLines [
    "options:",
    "  -h, --help            show this help message and exit",
    "  -i INPUT, --input INPUT",
    "                        Input markup file or s3://bucket/key",
    "  -c CHARSET, --charset CHARSET",
    "                        Input charset (default: JIRAMD_CHARSET or UTF-8)",
    "  -o OUTPUT, --output OUTPUT",
    "                        Output Markdown file (default: stdout)",
    "  --strikethrough       Render -deleted- spans as ~~deleted~~"]
  choices := [
    helpChoice,
    { names := ["-i", "--input"], effect := .value "input", required := true },
    { names := ["-c", "--charset"], effect := .value "charset" },
    { names := ["-o", "--output"], effect := .value "output" },
    { names := ["--strikethrough"], effect := .flag "strikethrough" }]
  positional := .nothing

/-- The command line of a batch. -/
def runSpecGrammar : Grammar where
  program := "jiramd run-spec"
  usage := "usage: jiramd run-spec [-h] spec_file"
  help := ofLines [
    "positional arguments:",
    "  spec_file   Path to YAML run-spec file",
    "",
    "options:",
    "  -h, --help  show this help message and exit"]
  choices := [helpChoice]
  positional := .word "spec_file"

/-- The task of a command, and the arguments that it leaves over. -/
def readTask : List String → Except Stop (Task × List String)
  | "convert" :: args => do
    let a ← convertGrammar.read args
    let task := .convert ((a.value? "input").getD "") (a.value? "charset")
      ((a.value? "output").map Path.ofString) (a.has "strikethrough")
    return (task, a.extras)
  | words => do
    let a ← runSpecGrammar.read words.tail
    return (.runSpec ((a.positional.getD []).headD ""), a.extras)

/-- Reads the whole command line. A command is read in its own way before it is said what is left over. -/
def readInvocation (args : List String) : Except Stop Invocation := do
  let a ← mainGrammar.read args
  let (task, extras) ← readTask (a.positional.getD [])
  match a.extras ++ extras with
  | [] => return ⟨a.value? "log_level", task⟩
  | extras =>
    .error (.usage mainGrammar ("unrecognized arguments: " ++ " ".intercalate extras))

end Wikidown.Command
