import Wikidown.Files.Path
import Wikidown.Markup.Rule
import Wikidown.Text.Case

/-!
# Log

What a run reports about its steps. Each event has a level, and only events that reach the threshold
are written.
-/

namespace Wikidown

/-- How grave an event is. -/
inductive Level
  | debug
  | info
  | warning
  | error
  | critical
deriving DecidableEq, Repr

namespace Level

/-- All levels, from the least grave one on. -/
def all : List Level :=
  [debug, info, warning, error, critical]

/-- The name of a level in capitals. -/
def name : Level → String
  | debug => "DEBUG"
  | info => "INFO"
  | warning => "WARNING"
  | error => "ERROR"
  | critical => "CRITICAL"

/-- The name under which a level is written with an event. -/
def label : Level → String
  | debug => "debug"
  | info => "info"
  | warning => "warning"
  | error => "error"
  | critical => "critical"

/-- The number by which levels are compared. -/
def number : Level → Nat
  | debug => 10
  | info => 20
  | warning => 30
  | error => 40
  | critical => 50

/-- The level of a name in capitals. -/
def ofName? (name : String) : Option Level :=
  all.find? fun l => l.name == name

/-- Other names under which a threshold is known. -/
def otherNames : List (String × Nat) :=
  [("FATAL", critical.number), ("WARN", warning.number), ("NOTSET", 0)]

/-- The threshold that a name stands for; an unknown name stands for warnings. -/
def thresholdOf (name : String) : Nat :=
  let name := Case.upper name
  (((ofName? name).map number) <|> otherNames.lookup name).getD warning.number

end Level

/-- What a run reports. -/
inductive Event
  | ruleApplied (rule : Rule) (changed : Bool)
  | converted (inputChars outputChars : Nat)
  | read (source charset : String) (chars : Nat)
  | written (output : Path) (chars : Nat)
  | jobCompleted (source : String) (output : Option Path)
deriving DecidableEq, Repr

/-- The value of a part of an event. -/
inductive Event.Part
  | text (s : String)
  | count (n : Nat)
  | flag (b : Bool)
  | nothing
deriving DecidableEq, Repr

namespace Event

/-- The level of an event. -/
def level : Event → Level
  | ruleApplied _ _ => .debug
  | _ => .info

/-- The name of an event. -/
def name : Event → String
  | ruleApplied _ _ => "rule_applied"
  | converted _ _ => "markup_converted"
  | read _ _ _ => "markup_read"
  | written _ _ => "markdown_written"
  | jobCompleted _ _ => "run_spec_job_completed"

/-- The parts of an event with their names. -/
def parts : Event → List (String × Part)
  | ruleApplied rule changed => [("rule", .text rule.name), ("changed", .flag changed)]
  | converted inputChars outputChars =>
    [("input_chars", .count inputChars), ("output_chars", .count outputChars)]
  | read source charset chars =>
    [("source_uri", .text source), ("charset", .text charset), ("chars", .count chars)]
  | written output chars => [("output_path", .text output.toString), ("chars", .count chars)]
  | jobCompleted source output =>
    [("source_uri", .text source),
      ("output_path", (output.map fun p => Part.text p.toString).getD .nothing)]

/-- All that is written of an event. -/
def record (e : Event) : List (String × Part) :=
  e.parts ++ [("event", .text e.name), ("level", .text e.level.label)]

end Event

end Wikidown
