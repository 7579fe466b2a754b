import Wikidown.Charset.Nameprep

/-!
# Punycode

A text in ASCII that holds a text beyond it: first the characters of ASCII, and behind the last hyphen
the numbers that say where the others are to be put in. The numbers are written in digits to base 36
with a varying threshold. In names of hosts, the labels with the mark `xn--` are written this way; such
a label has to be the one that its text is written as.
-/

namespace Wikidown.Punycode

/-- The value of a digit. -/
def digit? (c : Char) : Option Nat :=
  let c := c.toUpper
  if c.isUpper then some (c.toNat - 'A'.toNat)
  else if c.isDigit then some (c.toNat - '0'.toNat + 26)
  else none

/-- The threshold of a place of a number: a digit below it ends the number. -/
def threshold (place bias : Nat) : Nat :=
  max 1 (min 26 (36 * (place + 1) - bias))

/-- The number at the front, and the text behind it. -/
def number (bias : Nat) : (place weight value : Nat) → Text → Except Refusal (Nat × Text)
  | _, _, _, [] => .error .incompleteNumber
  | place, weight, value, c :: s =>
    match digit? c with
    | none => .error (.badDigit c.toUpper)
    | some d =>
      let t := threshold place bias
      let value := value + d * weight
      if d < t then .ok (value, s) else number bias (place + 1) (weight * (36 - t)) value s

/-- Scales a distance down until it is small; `fuel` is at least its size. -/
def scale : (fuel delta divisions : Nat) → Nat
  | 0, delta, divisions => divisions + 36 * delta / (delta + 38)
  | fuel + 1, delta, divisions =>
    if 455 < delta then scale fuel (delta / 35) (divisions + 36)
    else divisions + 36 * delta / (delta + 38)

/-- The bias for the next number, after a distance was read and the text has `length` characters. -/
def adapt (delta length : Nat) (first : Bool) : Nat :=
  let delta := if first then delta / 700 else delta / 2
  let delta := delta + delta / length
  scale delta delta 0

/-- Puts the code points in that the numbers say; `fuel` is at least the length of their text. -/
def insertFrom : (fuel code position bias : Nat) → (first : Bool) → (made : CodeText) →
    (numbers : Text) → Except Refusal CodeText
  | 0, _, _, _, _, made, _ => .ok made
  | _, _, _, _, _, made, [] => .ok made
  | fuel + 1, code, position, bias, first, made, numbers => do
    let (delta, rest) ← number bias 0 1 0 numbers
    let position := position + delta
    let length := made.length + 1
    let code := code + position / length
    if 0x10FFFF < code then throw (.beyondUnicode code)
    let place := position % length
    let made := made.take place ++ .ofNat code :: made.drop place
    insertFrom fuel code (place + 1) (adapt delta length first) false made rest

/-- Bytes of ASCII as text. -/
def ascii (bs : Bytes) : Except Undecodable Text :=
  match bs.findIdx? fun b => 0x80 ≤ b with
  | some i => .error (.flawed ⟨.notAscii, i, i + 1⟩)
  | none => .ok (bs.map fun b => Char.ofNat b.toNat)

/-- The text of some bytes. -/
def decode (bs : Bytes) : Except Undecodable CodeText := do
  let numbers := (bs.reverse.takeWhile (· != 0x2D)).reverse
  let base ← ascii (bs.take (bs.length - numbers.length - 1))
  let numbers ← ascii numbers
  (insertFrom numbers.length 0x80 0 72 true (.ofText base) numbers).mapError .refused

/-- The digit of a value. -/
def digitOf (value : Nat) : Char :=
  if value < 26 then Char.ofNat ('a'.toNat + value) else Char.ofNat ('0'.toNat + (value - 26))

/-- The digits of a number. -/
def digitsOf (bias place value : Nat) : Text :=
  let t := threshold place bias
  if value < t then [digitOf value]
  else digitOf (t + (value - t) % (36 - t)) :: digitsOf bias (place + 1) ((value - t) / (36 - t))
termination_by value
decreasing_by
  have : 1 ≤ threshold place bias := Nat.le_max_left ..
  have := Nat.div_le_self (value - threshold place bias) (36 - threshold place bias)
  omega

/-- How far the numbers of a text are written: the distance since the last one, the bias, how many
characters have been counted, whether no number is written yet, and the digits. -/
structure Progress where
  delta : Nat
  bias : Nat
  made : Nat
  first : Bool
  digits : Text

/-- Passes a code point while those with a certain number are written. -/
def Progress.pass (code : Nat) (s : Progress) (n : Nat) : Progress :=
  if n < code then { s with delta := s.delta + 1 }
  else if n = code then
    { delta := 0
      bias := adapt s.delta (s.made + 1) s.first
      made := s.made + 1
      first := false
      digits := s.digits ++ digitsOf s.bias 0 s.delta }
  else s

/-- Writes all code points with the next larger number of those in a text; `last` is the number that
was written before, or the least one. -/
def Progress.write (ns : List Nat) (s : Progress) (last code : Nat) : Progress :=
  let s := { s with delta := s.delta + (code - last) * (s.made + 1) }
  let s := ns.foldl (pass code) s
  { s with delta := s.delta + 1 }

/-- The numbers of a text's code points beyond ASCII, as they are written behind its other ones. -/
def encodeBeyond (ns : List Nat) (made : Nat) : Text :=
  let codes := ((ns.filter (0x80 ≤ ·)).eraseDups).mergeSort
  let lasts := 0x80 :: codes.map (· + 1)
  let start : Progress := ⟨0, 72, made, true, []⟩
  ((lasts.zip codes).foldl (fun s (last, code) => s.write ns last code) start).digits

/-- How the code points of some numbers are written. -/
def encode (ns : List Nat) : Text :=
  let base := (ns.filter (· < 0x80)).map Char.ofNat
  (if base = [] then [] else base ++ ['-']) ++ encodeBeyond ns base.length

/-- The mark of a label in punycode. -/
def mark : Text :=
  "xn--".toList

/-- Whether a label has the mark. -/
def isMarked (bs : Bytes) : Bool :=
  mark.isPrefixOf (bs.map fun b => Char.ofNat b.toNat)

/-- A label, if it has an allowed length. -/
def measured (label : Text) : Except Refusal Text :=
  if label = [] ∨ 64 ≤ label.length then .error .labelLength else .ok label

/-- A label as it is, if it is in ASCII. -/
def plain? (ns : List Nat) : Option Text :=
  if ns.all (· < 0x80) then some (ns.map Char.ofNat) else none

/-- The label in ASCII that the code points of some numbers are written as. -/
def label (ns : List Nat) : Except Refusal Text :=
  match plain? ns with
  | some s => measured s
  | none => do
    let prepared ← Nameprep.prepare ns
    match plain? prepared with
    | some s => measured s
    | none =>
      if (prepared.map Char.ofNat).take mark.length = mark then .error .markedLabel
      else measured (mark ++ encode prepared)

/-- The text of a label. A label with the mark has to be the one that its text is written as. -/
def decodeLabel (bs : Bytes) : Except Undecodable CodeText := do
  if !isMarked bs then return .ofText (← ascii bs)
  let code := bs.drop mark.length
  let s ←
    if code = [] then .ok []
    else
      (decode code).mapError fun
        | .refused r => .refused (.within "punycode" r)
        | e => e
  let form ← (label (s.map CodePoint.toNat)).mapError .refused
  let written ← ascii bs
  if written.map Char.toLower = form then return s
  else throw (.refused (.otherForm written form))

/-- The text of a name whose labels stand between dots. -/
def decodeName (bs : Bytes) : Except Undecodable CodeText :=
  let labels := bs.splitOn 0x2E
  let trailing := labels.getLast? == some []
  let labels := if trailing then labels.dropLast else labels
  match ascii bs with
  | .ok s =>
    if labels.any isMarked then decodeAll labels trailing else .ok (.ofText s)
  | .error _ => decodeAll labels trailing
where
  /-- The text of some labels. -/
  decodeAll (labels : List Bytes) (trailing : Bool) : Except Undecodable CodeText := do
    let texts ← labels.mapM decodeLabel
    return [.char '.'].intercalate texts ++ if trailing then [.char '.'] else []

end Wikidown.Punycode
