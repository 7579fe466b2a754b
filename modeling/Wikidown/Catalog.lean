import Wikidown.Failure

/-!
# What the library offers

The public names of the library, and the classes by which its failures are told apart. Every foreseen
failure has a class (`Failure.isSome_class?`).
-/

namespace Wikidown

/-- The public names. -/
def publicNames : List String :=
  ["ConversionOptions", "ConversionResult", "InvalidInputError", "JiraMdConfig",
    "JiraMdConfigError", "JiraMdError", "JiraMdReadError", "JiraMdRunSpecError",
    "JiraMdWriteError", "RULE_ORDER", "build_rule_sequence", "convert", "convert_source",
    "execute_run_spec", "execute_run_spec_file", "load_run_spec"]

/-- The classes of foreseen failures. -/
inductive FailureClass
  | any
  | input
  | config
  | dependency
  | read
  | spec
  | write
deriving DecidableEq, Repr

namespace FailureClass

/-- All classes, the one of all foreseen failures first. -/
def all : List FailureClass :=
  [any, input, config, dependency, read, spec, write]

/-- The name of a class. -/
def name : FailureClass → String
  | any => "JiraMdError"
  | input => "InvalidInputError"
  | config => "JiraMdConfigError"
  | dependency => "JiraMdDependencyError"
  | read => "JiraMdReadError"
  | spec => "JiraMdRunSpecError"
  | write => "JiraMdWriteError"

/-- The name of the class that a class belongs to. -/
def parentName : FailureClass → String
  | any => "Exception"
  | _ => any.name

end FailureClass

/-- The class of a failure; what the surroundings refuse has none. -/
def Failure.class? : Failure → Option FailureClass
  | input _ => some .input
  | config _ => some .config
  | read _ => some .read
  | write _ _ => some .write
  | remoteSupport => some .dependency
  | spec _ => some .spec
  | fault _ => none

/-- The foreseen failures are those that have a class. -/
theorem Failure.isSome_class? (e : Failure) : e.class?.isSome = e.isForeseen := by
  cases e <;> rfl

end Wikidown
