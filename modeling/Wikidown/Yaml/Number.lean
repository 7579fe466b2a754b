import Wikidown.Text.Blank
import Wikidown.Text.Case
import Wikidown.Text.Digit
import Wikidown.Yaml.Error
import Wikidown.Yaml.Scalar

/-!
# Numbers

The number that a scalar writes, with its misfits. Underscores are left out; a number may be signed,
binary, octal, hexadecimal or to base sixty, and its digits may be those of any script.
-/

namespace Wikidown.Yaml.Number

/-- The white space of ASCII. -/
def isSpace (c : Char) : Bool :=
  c == ' ' || (9 ≤ c.toNat && c.toNat ≤ 13)

/-- The character of ASCII that a digit or a blank of Unicode counts as. -/
def plainChar (c : Char) : Char :=
  if c.toNat < 0x80 then c else
  match Digit.value? c with
  | some d => Char.ofNat (d + '0'.toNat)
  | none => if isBlank c then ' ' else c

/-- A text in ASCII digits, without the white space at its ends. -/
def plain (s : Text) : Text :=
  (((s.map plainChar).dropWhile isSpace).reverse.dropWhile isSpace).reverse

/-- The value of a digit. -/
def digitValue (c : Char) : Nat :=
  if c.isDigit then c.toNat - '0'.toNat else c.toLower.toNat - 'a'.toNat + 10

/-- Whether a character is a digit to some base. -/
def isDigitTo (base : Nat) (c : Char) : Bool :=
  c.isAlphanum && digitValue c < base

/-- A text without the mark of a base. -/
def dropMark (base : Nat) : Text → Text
  | '0' :: m :: s =>
    if (base, m.toLower) ∈ [(2, 'b'), (8, 'o'), (16, 'x')] then s else '0' :: m :: s
  | s => s

/-- How many decimal digits are read. -/
def maxDigits : Nat :=
  4300

/-- The whole number that a text writes to a base, with its own sign. -/
def integer (base : Nat) (s : Text) : Except Misfit Int :=
  let p := plain s
  let ds := dropMark base (Scalar.unsigned p)
  let count := (ds.takeWhile (isDigitTo base)).length
  if base = 10 ∧ maxDigits < count then .error (.tooManyDigits count)
  else if ds = [] ∨ count < ds.length then .error (.notInteger base (String.ofList s))
  else
    let n := ds.foldl (fun n d => n * base + digitValue d) 0
    .ok (if p.head? = some '-' then -n else n)

/-- The whole number that a text without a sign in front writes. -/
def magnitude : Text → Except Misfit Int
  | [] => .error .emptyNumber
  | ['0'] => .ok 0
  | '0' :: 'b' :: s => integer 2 s
  | '0' :: 'x' :: s => integer 16 s
  | '0' :: s => integer 8 ('0' :: s)
  | s =>
    if s.contains ':' then
      ((s.splitOn ':').mapM (integer 10)).map (·.foldl (fun n d => n * 60 + d) 0)
    else integer 10 s

/-- The whole number of a scalar. -/
def ofScalar (text : String) : Except Misfit Int :=
  let s := text.toList.filter (· != '_')
  if s.head? = some '-' then (magnitude s.tail).map (-·) else magnitude (Scalar.unsigned s)

/-- Whether a text is an exponent or nothing. -/
def isExponent : Text → Bool
  | [] => true
  | e :: s => e.toLower == 'e' && Scalar.isRunOf Char.isDigit (Scalar.unsigned s)

/-- Whether a text without a sign is a real number. -/
def isUnsignedReal (s : Text) : Bool :=
  let whole := s.takeWhile Char.isDigit
  let rest := s.dropWhile Char.isDigit
  let point := rest.head? == some '.'
  let fraction := if point then rest.tail.takeWhile Char.isDigit else []
  let rest := if point then rest.tail.dropWhile Char.isDigit else rest
  ["inf", "infinity", "nan"].contains (String.ofList (s.map Char.toLower)) ||
    (!(whole.isEmpty && fraction.isEmpty) && isExponent rest)

/-- Whether a text writes a real number. -/
def isReal (s : Text) : Bool :=
  isUnsignedReal (Scalar.unsigned (plain s))

/-- Refuses a text that is no real number. -/
def checkReal (s : Text) : Except Misfit Unit :=
  if isReal s then .ok () else .error (.notReal (String.ofList s))

/-- How many groups to base sixty a real number may have. -/
def maxGroups : Nat :=
  174

/-- Refuses a scalar that is no real number: in addition to the usual forms there are numbers to base
sixty and the marks for infinity and for what is no number. -/
def checkScalar (text : String) : Except Misfit Unit :=
  let s := (Case.lower (String.ofList (text.toList.filter (· != '_')))).toList
  let r := Scalar.unsigned s
  if s = [] then .error .emptyNumber
  else if r = ".inf".toList ∨ r = ".nan".toList then .ok ()
  else do
    (r.splitOn ':').forM checkReal
    if maxGroups < (r.splitOn ':').length then throw .tooManyGroups

end Wikidown.Yaml.Number
