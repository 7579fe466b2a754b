import Wikidown.Text.Basic

/-!
# The forms of plain scalars

Which plain scalars are truth values, numbers, times and the like, by their written form alone. A
line feed at the very end of a scalar does not count.
-/

namespace Wikidown.Yaml

namespace Tag

/-- The beginning of the tags that YAML itself defines. -/
def root : String :=
  "tag:yaml.org,2002:"

def null : String := root ++ "null"
def bool : String := root ++ "bool"
def int : String := root ++ "int"
def float : String := root ++ "float"
def str : String := root ++ "str"
def binary : String := root ++ "binary"
def timestamp : String := root ++ "timestamp"
def merge : String := root ++ "merge"
def value : String := root ++ "value"
def yaml : String := root ++ "yaml"
def seq : String := root ++ "seq"
def map : String := root ++ "map"
def set : String := root ++ "set"
def omap : String := root ++ "omap"
def pairs : String := root ++ "pairs"

end Tag

namespace Scalar

/-- A digit or an underscore. -/
def isDigitOrBar (c : Char) : Bool :=
  c.isDigit || c == '_'

/-- A text without the sign in front. -/
def unsigned : Text → Text
  | '+' :: s => s
  | '-' :: s => s
  | s => s

/-- Whether a text is a group of a number to base sixty: a colon and one or two digits, the first of
two at most five. -/
def isSixtieth : Text → Bool
  | [a] => a.isDigit
  | [a, b] => '0' ≤ a && a ≤ '5' && b.isDigit
  | _ => false

/-- Whether a text is a number that begins with a digit other than `0`, or with any digit. -/
def isCount (zeroFirst : Bool) : Text → Bool
  | [] => false
  | c :: s => c.isDigit && (zeroFirst || c != '0') && s.all isDigitOrBar

/-- Whether a text is a nonempty run of a class. -/
def isRunOf (p : Char → Bool) (s : Text) : Bool :=
  !s.isEmpty && s.all p

/-- Whole numbers: binary, octal, decimal, hexadecimal, or to base sixty. -/
def isInt (s : Text) : Bool :=
  match unsigned s with
  | ['0'] => true
  | '0' :: 'b' :: r => isRunOf (fun c => c == '0' || c == '1' || c == '_') r
  | '0' :: 'x' :: r =>
    isRunOf (fun c => isDigitOrBar c || ('a' ≤ c && c ≤ 'f') || ('A' ≤ c && c ≤ 'F')) r
  | '0' :: r => isRunOf (fun c => ('0' ≤ c && c ≤ '7') || c == '_') r
  | r =>
    match r.splitOn ':' with
    | head :: groups => isCount false head && groups.all isSixtieth
    | [] => false

/-- An exponent with its sign, or nothing. -/
def isExponent : Text → Bool
  | [] => true
  | e :: sign :: digits =>
    (e == 'e' || e == 'E') && (sign == '+' || sign == '-') && isRunOf Char.isDigit digits
  | _ => false

/-- The text behind the point of a number: digits and an exponent. -/
def isFraction (s : Text) : Bool :=
  isExponent (s.dropWhile isDigitOrBar)

/-- Numbers with a point, infinities, and what is no number. -/
def isFloat (s : Text) : Bool :=
  let r := unsigned s
  let whole := r.takeWhile (· != '.')
  let behind := (r.dropWhile (· != '.')).drop 1
  if [".nan", ".NaN", ".NAN"].contains (String.ofList s) then true
  else if [".inf", ".Inf", ".INF"].contains (String.ofList r) then true
  else if !r.contains '.' then false
  else if whole.isEmpty then
    s.head? == some '.' && behind.head?.any Char.isDigit && isFraction behind
  else if isCount true whole then isFraction behind
  else
    match whole.splitOn ':' with
    | head :: groups => isCount true head && groups.all isSixtieth && behind.all isDigitOrBar
    | [] => false

/-- The truth values. -/
def isBool (s : Text) : Bool :=
  ["yes", "Yes", "YES", "no", "No", "NO", "true", "True", "TRUE", "false", "False", "FALSE", "on",
    "On", "ON", "off", "Off", "OFF"].contains (String.ofList s)

/-- Nothing, a tilde, or the word for it. -/
def isNull (s : Text) : Bool :=
  ["", "~", "null", "Null", "NULL"].contains (String.ofList s)

/-- The parts of a written time. -/
structure Time where
  year : Nat
  month : Nat
  day : Nat
  clock : Option (Nat × Nat × Nat)
  /-- Whether the offset is negative, and its hours and minutes. -/
  zone : Option (Bool × Nat × Nat)
  /-- Whether the date is written in four, two and two digits. -/
  padded : Bool

/-- A number of at least `low` and at most `high` digits at the front of a text, how many there are,
and what is behind it. -/
def digits? (low high : Nat) (s : Text) : Option (Nat × Nat × Text) :=
  let ds := (s.take high).takeWhile Char.isDigit
  if ds.length < low then none
  else
    some (ds.foldl (fun n d => n * 10 + (d.toNat - '0'.toNat)) 0, ds.length, s.drop ds.length)

/-- The offset at the end of a time. -/
def zone? (s : Text) : Option (Option (Bool × Nat × Nat)) :=
  match s.dropWhile fun c => c == ' ' || c == '\t' with
  | [] => if s.isEmpty then some none else none
  | ['Z'] => some (some (false, 0, 0))
  | sign :: r =>
    if sign = '+' ∨ sign = '-' then do
      let (hours, _, r) ← digits? 1 2 r
      match r with
      | [] => some (some (sign == '-', hours, 0))
      | r =>
        let (minutes, _, r) ← (Text.after? [':'] r).bind (digits? 2 2)
        if r.isEmpty then some (some (sign == '-', hours, minutes)) else none
    else none

/-- The time that a text writes: a date, alone or with a clock time and an offset. -/
def time? (s : Text) : Option Time := do
  let (year, _, r) ← digits? 4 4 s
  let (month, monthWidth, r) ← (Text.after? ['-'] r).bind (digits? 1 2)
  let (day, dayWidth, r) ← (Text.after? ['-'] r).bind (digits? 1 2)
  let padded := monthWidth == 2 && dayWidth == 2
  match r with
  | [] => some ⟨year, month, day, none, none, padded⟩
  | c :: t =>
    let r ←
      if c = 'T' ∨ c = 't' then some t
      else if c = ' ' ∨ c = '\t' then some (t.dropWhile fun c => c == ' ' || c == '\t')
      else none
    let (hour, _, r) ← digits? 1 2 r
    let (minute, _, r) ← (Text.after? [':'] r).bind (digits? 2 2)
    let (second, _, r) ← (Text.after? [':'] r).bind (digits? 2 2)
    let r :=
      match r with
      | '.' :: t => t.dropWhile Char.isDigit
      | r => r
    let zone ← zone? r
    some ⟨year, month, day, some (hour, minute, second), zone, padded⟩

/-- Dates in four, two and two digits, and times. -/
def isTimestamp (s : Text) : Bool :=
  (time? s).any fun t => t.padded || t.clock.isSome

/-- A text without a line feed at its very end. -/
def dropLastFeed (s : Text) : Text :=
  if s.getLast? = some '\n' then s.dropLast else s

/-- The tag of a plain scalar. -/
def tag (text : String) : String :=
  let s := dropLastFeed text.toList
  if s.isEmpty && text != "" then Tag.str
  else if isBool s then Tag.bool
  else if isFloat s then Tag.float
  else if isInt s then Tag.int
  else if s == "<<".toList then Tag.merge
  else if isNull s then Tag.null
  else if isTimestamp s then Tag.timestamp
  else if s == "=".toList then Tag.value
  else if s == "!".toList || s == "&".toList || s == "*".toList then Tag.yaml
  else Tag.str

end Scalar

end Wikidown.Yaml
