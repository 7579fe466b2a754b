import Wikidown.Command.Grammar

/-!
# Reading a command line

Arguments are read from left to right: each option is taken with its value, the positional part is
taken where it first fits, and all else is left over. Reading stops at the first fault, and at an
option that asks for help or for the version.
-/

namespace Wikidown.Command

/-- Why reading a command line stops before its end. -/
inductive Stop
  | usage (g : Grammar) (message : String)
  | help (g : Grammar)
  | version
deriving DecidableEq, Repr

/-- What a command line says: the values and flags given, in their order, the positional part, and what
is left over. -/
structure Arguments where
  given : List (String × String) := []
  positional : Option (List String) := none
  extras : List String := []
deriving DecidableEq, Repr

namespace Arguments

/-- The value given last under a key. -/
def value? (a : Arguments) (key : String) : Option String :=
  a.given.reverse.lookup key

/-- Whether something is given under a key. -/
def has (a : Arguments) (key : String) : Bool :=
  (a.value? key).isSome

end Arguments

namespace Grammar

/-- Refuses an option. -/
def refuse {α : Type} (g : Grammar) (c : Choice) (message : String) : Except Stop α :=
  .error (.usage g s!"argument {c.title}: {message}")

/-- The options taken by one argument and those behind it, with their values, an unknown rest of the
argument, and the arguments that are left. -/
structure Taken where
  options : List (Choice × String)
  extra : Option String
  rest : List (String × Role)

/-- Puts an option without a value in front of those taken. -/
def Taken.cons (c : Choice) (t : Taken) : Taken :=
  { t with options := (c, "") :: t.options }

/-- Takes an option with its value: `attached` in the same argument, or the word behind it. -/
def takeSingle (g : Grammar) (c : Choice) (attached : Option String)
    (rest : List (String × Role)) : Except Stop Taken :=
  if c.takesValue then
    match attached, rest with
    | some value, rest => .ok ⟨[(c, value)], none, rest⟩
    | none, (value, .plain) :: rest => .ok ⟨[(c, value)], none, rest⟩
    | none, _ => g.refuse c "expected one argument"
  else
    match attached with
    | some text => g.refuse c ("ignored explicit argument " ++ Quoted.quoted text)
    | none => .ok ⟨[(c, "")], none, rest⟩

/-- Takes short options that are written together: the first is `c`, and `text` follows it in the
argument. -/
def takeTogether (g : Grammar) (c : Choice) (rest : List (String × Role)) :
    Text → Except Stop Taken
  | [] => g.takeSingle c none rest
  | letter :: text =>
    if c.takesValue then g.takeSingle c (some (String.ofList (letter :: text))) rest
    else if letter = '-' then
      g.refuse c ("ignored explicit argument " ++ Quoted.quoted (String.ofList (letter :: text)))
    else
      match g.choice? (String.ofList ['-', letter]) with
      | none => .ok ⟨[(c, "")], some (String.ofList ('-' :: letter :: text)), rest⟩
      | some next =>
        match text with
        | '=' :: value =>
          (g.takeSingle next (some (String.ofList value)) rest).map (Taken.cons c)
        | text => (takeTogether g next rest text).map (Taken.cons c)

/-- Takes the options that an argument mentions. -/
def takeMention (g : Grammar) (m : Mention) (rest : List (String × Role)) : Except Stop Taken :=
  match m.attached with
  | some (false, text) => g.takeTogether m.choice rest text.toList
  | some (true, text) => g.takeSingle m.choice (some text) rest
  | none => g.takeSingle m.choice none rest

/-- The positional part at the front of some arguments that do not begin with an option: its words, and
the arguments behind it. The separator may stand on either side of a single word. -/
def takePositional (g : Grammar) : List (String × Role) →
    Option (List String × List (String × Role))
  | args =>
    match g.positional with
    | .nothing => none
    | .command _ _ =>
      match args with
      | (_, .plain) :: _ | (_, .separator) :: (_, .plain) :: _ => some (args.map (·.1), [])
      | _ => none
    | .word _ =>
      match args with
      | (_, .separator) :: (w, .plain) :: rest => some ([w], rest)
      | (w, .plain) :: (_, .separator) :: rest => some ([w], rest)
      | (w, .plain) :: rest => some ([w], rest)
      | _ => none

/-- Whether an argument stands where an option can. -/
def isOption : String × Role → Bool
  | (_, .mention _) | (_, .unknown) => true
  | _ => false

/-- Carries out what the options taken say. -/
def carryOut (g : Grammar) (a : Arguments) : List (Choice × String) → Except Stop Arguments
  | [] => .ok a
  | (c, value) :: options =>
    match c.effect with
    | .help => .error (.help g)
    | .version => .error .version
    | .value key | .flag key => carryOut g { a with given := a.given ++ [(key, value)] } options

/-- Reads arguments whose roles are known; `fuel` is at least their number. -/
def readFrom (g : Grammar) : (fuel : Nat) → Arguments → List (String × Role) →
    Except Stop Arguments
  | 0, a, _ => .ok a
  | _ + 1, a, [] => .ok a
  | fuel + 1, a, (arg, role) :: rest =>
    match role with
    | .unknown => readFrom g fuel { a with extras := a.extras ++ [arg] } rest
    | .mention m => do
      let taken ← g.takeMention m rest
      let a ← g.carryOut a taken.options
      readFrom g fuel { a with extras := a.extras ++ taken.extra.toList } taken.rest
    | _ =>
      let args := (arg, role) :: rest
      let positional := if a.positional.isNone then g.takePositional args else none
      match positional with
      | some (words, rest) => readFrom g fuel { a with positional := some words } rest
      | none =>
        let skipped := args.takeWhile fun x => !isOption x
        let rest := args.dropWhile fun x => !isOption x
        readFrom g fuel { a with extras := a.extras ++ skipped.map (·.1) } rest

/-- The name of the positional part, where it has to be there. -/
def positionalName : Positional → Option String
  | .nothing => none
  | .word name | .command name _ => some name

/-- What is missing on a command line. -/
def missing (g : Grammar) (a : Arguments) : List String :=
  let options := g.choices.filterMap fun c =>
    match c.effect with
    | .value key => if c.required && !a.has key then some c.title else none
    | _ => none
  options ++ if a.positional.isNone then (positionalName g.positional).toList else []

/-- Refuses a command that is not known. -/
def checkCommand (g : Grammar) (words : List String) : Except Stop Unit :=
  match g.positional, words with
  | .command name commands, word :: _ =>
    if commands.contains word then .ok ()
    else
      .error (.usage g (s!"argument {name}: invalid choice: " ++ Quoted.quoted word ++
        " (choose from " ++ ", ".intercalate (commands.map Quoted.quoted) ++ ")"))
  | _, _ => .ok ()

/-- Reads a command line. A command is not looked into; what is missing is looked for at the end. -/
def read (g : Grammar) (args : List String) : Except Stop Arguments := do
  let args ← (g.classifyAll args).mapError (.usage g)
  let a ← g.readFrom args.length {} args
  g.checkCommand (a.positional.getD [])
  match g.missing a with
  | [] => return a
  | names =>
    .error (.usage g ("the following arguments are required: " ++ ", ".intercalate names))

end Grammar

end Wikidown.Command
