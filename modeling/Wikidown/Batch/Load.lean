import Wikidown.Batch.Spec
import Wikidown.Session

/-!
# Loading a batch specification

A batch specification is a file in UTF-8 that holds one document of YAML, whose value the reader of the
session gives. Its base directory is the one that holds the file, links followed.
-/

namespace Wikidown.Run

/-- A text in which every line ends with a line feed. -/
def unifyLineEnds : Text → Text
  | '\r' :: '\n' :: s => '\n' :: unifyLineEnds s
  | '\r' :: s => '\n' :: unifyLineEnds s
  | c :: s => c :: unifyLineEnds s
  | [] => []

/-- The text of a batch specification's bytes. -/
def specText (content : Bytes) : Except Failure Text :=
  match Utf8.decode content with
  | .ok s => .ok (unifyLineEnds s)
  | .error e => .error (.fault (.notUtf8 e (content[e.start]?.getD 0)))

/-- The value that the bytes of a batch specification write. -/
def specValue (yaml : Text → Except Yaml.Trouble Value) (p : Path) (content : Bytes) :
    Except Failure Value := do
  match yaml (← specText content) with
  | .ok .null => .error (.spec (.empty p))
  | .ok v => .ok v
  | .error (.complaint c) => .error (.spec (.notYaml p c))
  | .error (.misfit m) => .error (.fault (.misfit m))

/-- The content of a batch specification. -/
def readSpec (p : Path) : Run Bytes := do
  let s ← get
  match s.files.look s.current p with
  | .ok (.file content) => return content
  | .ok (.barred _) => throw (.spec (.unreadable p ⟨.denied, p⟩))
  | .ok _ => throw (.spec (.unreadable p ⟨.isDirectory, p⟩))
  | .error o => if o.hides then refuse (.system ⟨o, p⟩) else throw (.spec (.missing p))

/-- Loads a batch specification. -/
def loadSpec (path : String) : Run Batch.Spec := do
  let p ← resolve (← expandHome (Path.ofString path))
  let v ← ofExcept (specValue (← get).yaml p (← readSpec p))
  ofExcept (Batch.Spec.ofValue p.parent v)

end Wikidown.Run
