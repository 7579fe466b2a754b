import Wikidown.Text.Basic
import Wikidown.Text.Digit
import Wikidown.Text.Quoted

/-!
# Command lines

What a command line can hold: options, with or without a value, and one positional part. An option may
be shortened as long as only one long name begins that way, its value may stand behind an equals sign,
and short options may be written together. `Grammar.classify` says for each argument what it is.
-/

namespace Wikidown.Command

/-- What an option does. -/
inductive Effect
  | value (key : String)
  | flag (key : String)
  | help
  | version
deriving DecidableEq, Repr

/-- An option: its names, what it does, and whether it has to be there. -/
structure Choice where
  names : List String
  effect : Effect
  required : Bool := false
deriving DecidableEq, Repr

/-- The part of a command line that is no option: nothing, one word, or a command with all that
follows it. -/
inductive Positional
  | nothing
  | word (name : String)
  | command (name : String) (commands : List String)
deriving DecidableEq, Repr

/-- What the command line of a program can hold. -/
structure Grammar where
  program : String
  usage : String
  help : String
  choices : List Choice
  positional : Positional
deriving DecidableEq, Repr

/-- An option as it stands in an argument: under which name, and the value that stands in the same
argument, with whether an equals sign is in front of it. -/
structure Mention where
  choice : Choice
  name : String
  attached : Option (Bool × String)
deriving DecidableEq, Repr

/-- What an argument is: a mention of an option, an option that is not known, the mark behind which
there are no options, or a plain word. -/
inductive Role
  | mention (m : Mention)
  | unknown
  | separator
  | plain
deriving DecidableEq, Repr

namespace Choice

/-- Whether an option takes a value. -/
def takesValue (c : Choice) : Bool :=
  c.effect matches .value _

/-- All names of an option. -/
def title (c : Choice) : String :=
  "/".intercalate c.names

end Choice

namespace Grammar

/-- All names of options, each with its option. -/
def names (g : Grammar) : List (String × Choice) :=
  g.choices.flatMap fun c => c.names.map (·, c)

/-- The option of a name. -/
def choice? (g : Grammar) (name : String) : Option Choice :=
  g.names.lookup name

/-- An argument cut at its first equals sign. -/
def cutAtEquals (arg : String) : String × Option (Bool × String) :=
  match Text.cut? ['='] arg.toList with
  | some (name, value) => (String.ofList name, some (true, String.ofList value))
  | none => (arg, none)

/-- The mentions that a shortened or compound argument can be read as. -/
def mentions (g : Grammar) (arg : String) : List Mention :=
  match arg.toList with
  | '-' :: '-' :: _ =>
    let (name, attached) := cutAtEquals arg
    g.names.filterMap fun (full, c) =>
      if name.toList.isPrefixOf full.toList then some ⟨c, full, attached⟩ else none
  | a :: b :: rest =>
    let short := String.ofList [a, b]
    g.names.filterMap fun (full, c) =>
      if full = short then some ⟨c, full, some (false, String.ofList rest)⟩ else none
  | _ => []

/-- Whether an argument is a negative number. -/
def isNegativeNumber (arg : String) : Bool :=
  let isDigits := fun s : Text => s.all fun c => (Digit.value? c).isSome
  match arg.toList with
  | '-' :: s =>
    let s := if s.getLast? = some '\n' then s.dropLast else s
    match Text.cut? ['.'] s with
    | some (whole, fraction) => isDigits whole && isDigits fraction && !fraction.isEmpty
    | none => isDigits s && !s.isEmpty
  | _ => false

/-- What an argument is, in front of the separator; or the message that it can be several options. -/
def classify (g : Grammar) (arg : String) : Except String Role :=
  if !arg.startsWith "-" || arg.length < 2 then .ok .plain
  else
    match g.choice? arg with
    | some c => .ok (.mention ⟨c, arg, none⟩)
    | none =>
      let (name, attached) := cutAtEquals arg
      match attached.bind fun _ => g.choice? name with
      | some c => .ok (.mention ⟨c, name, attached⟩)
      | none =>
        match g.mentions arg with
        | [m] => .ok (.mention m)
        | [] => .ok (if isNegativeNumber arg || arg.contains ' ' then .plain else .unknown)
        | ms =>
          .error (s!"ambiguous option: {arg} could match " ++ ", ".intercalate (ms.map (·.name)))

/-- What each argument is. -/
def classifyAll (g : Grammar) : List String → Except String (List (String × Role))
  | [] => .ok []
  | arg :: args =>
    if arg = "--" then .ok ((arg, .separator) :: args.map (·, .plain))
    else do
      let role ← g.classify arg
      return (arg, role) :: (← classifyAll g args)

end Grammar

end Wikidown.Command
