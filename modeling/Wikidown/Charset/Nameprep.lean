import Wikidown.Charset.Reading
import Wikidown.Charset.Table.Hostname
import Wikidown.Charset.Table.Normalization

/-!
# Preparing names of hosts

Two names of a host are the same if they are prepared to the same one. A name is folded, broken down to
characters that are no longer told apart, its marks are ordered, and pairs are put together again; then
characters that are not allowed and mixed directions of writing are refused. Names are lists of the
numbers of their code points, surrogates included.
-/

namespace Wikidown.Nameprep

/-- Whether a number is in one of some ranges. -/
def within (ranges : List (Nat × Nat)) (n : Nat) : Bool :=
  ranges.any fun (first, last) => first ≤ n && n ≤ last

/-- The numbers of a text's characters. -/
def numbers (s : Text) : List Nat :=
  s.map Char.toNat

/-- Numbers by twos: the second is what the first becomes. -/
def pairsOf : List Nat → List (Nat × List Nat)
  | a :: b :: ns => (a, [b]) :: pairsOf ns
  | _ => []

/-- What characters are folded to. -/
def foldings : List (Nat × List Nat) :=
  pairsOf (numbers (foldedPairs.flatMap String.toList)) ++
    foldedTexts.map fun (c, s) => (c.toNat, numbers s.toList)

/-- A character folded; some characters stand for nothing. -/
def fold (n : Nat) : List Nat :=
  if within void n then [] else (foldings.lookup n).getD [n]

/-- What characters break down to. -/
def decompositions : List (Nat × List Nat) :=
  decomposedRows.flatMap fun (first, width, s) =>
    let ns := numbers s.toList
    (List.range (ns.length / width)).map fun i => (first + i, (ns.drop (i * width)).take width)

/-- The first syllable of Korean, and its first consonant, its vowel, and what is in front of the first
consonant that can close it. -/
def firstSyllable : Nat × Nat × Nat × Nat :=
  (0xAC00, 0x1100, 0x1161, 0x11A7)

/-- How many vowels there are, and in how many ways a syllable closes. -/
def vowelsAndClosings : Nat × Nat :=
  (21, 28)

/-- The letters of a syllable, given by its place among the syllables. -/
def lettersOf (place : Nat) : List Nat :=
  let (_, consonant, vowel, closing) := firstSyllable
  let (vowels, closings) := vowelsAndClosings
  let pair := [consonant + place / (vowels * closings), vowel + place / closings % vowels]
  if place % closings = 0 then pair else pair ++ [closing + place % closings]

/-- What a character breaks down to. -/
def decompose (n : Nat) : List Nat :=
  let (first, _) := firstSyllable
  if first ≤ n ∧ n < first + 11172 then lettersOf (n - first)
  else (decompositions.lookup n).getD [n]

/-- The class of a mark; all other characters have the class zero. -/
def markClass (n : Nat) : Nat :=
  ((markClasses.find? fun (first, last, _) => first ≤ n && n ≤ last).map fun e => e.2.2).getD 0

/-- Puts a character in front of ordered ones; a mark goes behind those of a smaller class. -/
def insertMark (n : Nat) : List Nat → List Nat
  | [] => [n]
  | m :: ns =>
    if markClass m = 0 ∨ markClass n ≤ markClass m then n :: m :: ns
    else m :: insertMark n ns

/-- Numbers by threes: the first is what the other two make. -/
def triplesOf : List Nat → List ((Nat × Nat) × Nat)
  | c :: a :: b :: ns => ((a, b), c) :: triplesOf ns
  | _ => []

/-- The characters that pairs make. -/
def compositions : List ((Nat × Nat) × Nat) :=
  triplesOf (numbers (composedTriples.flatMap String.toList))

/-- The syllable that a consonant and a vowel make, or an open syllable and a consonant. -/
def syllable? (a b : Nat) : Option Nat :=
  let (first, consonant, vowel, closing) := firstSyllable
  let (vowels, closings) := vowelsAndClosings
  if consonant ≤ a ∧ a < consonant + 19 ∧ vowel ≤ b ∧ b < vowel + vowels then
    some (first + ((a - consonant) * vowels + (b - vowel)) * closings)
  else if first ≤ a ∧ a < first + 11172 ∧ (a - first) % closings = 0 ∧ closing < b ∧
      b < closing + closings then
    some (a + (b - closing))
  else none

/-- The character that a pair makes. -/
def composed? (a b : Nat) : Option Nat :=
  syllable? a b <|> compositions.lookup (a, b)

/-- Puts into a character those behind it that make one with it, up to the next character that is no
mark; a mark is out of reach behind one of its class or a greater one, and `blocked` is the class of the
last mark passed. Gives the character and what is left. -/
def absorb (n blocked : Nat) : List Nat → Nat × List Nat
  | [] => (n, [])
  | m :: ns =>
    let pass := fun blocked => (absorb n blocked ns).map id (m :: ·)
    if blocked ≠ 0 ∧ markClass m = 0 then (n, m :: ns)
    else if blocked ≠ 0 ∧ markClass m ≤ blocked then pass blocked
    else
      match composed? n m with
      | some c => absorb c blocked ns
      | none => if markClass m = 0 then (n, m :: ns) else pass (markClass m)

theorem length_absorb_le (n blocked : Nat) (ns : List Nat) :
    (absorb n blocked ns).2.length ≤ ns.length := by
  induction ns generalizing n blocked with
  | nil => simp [absorb]
  | cons m ns ih =>
    simp only [absorb]
    split
    · exact Nat.le_refl _
    · split
      · simpa using ih n blocked
      · split
        · exact Nat.le_succ_of_le (ih _ _)
        · split
          · exact Nat.le_refl _
          · simpa using ih n (markClass m)

/-- Puts pairs together. -/
def compose : List Nat → List Nat
  | [] => []
  | n :: ns =>
    (absorb n 0 ns).1 :: compose (absorb n 0 ns).2
termination_by ns => ns.length
decreasing_by exact Nat.lt_succ_of_le (length_absorb_le n 0 ns)

/-- A name in normal form. -/
def normalize (ns : List Nat) : List Nat :=
  compose ((ns.flatMap decompose).foldr insertMark [])

/-- A name prepared. -/
def prepare (ns : List Nat) : Except Refusal (List Nat) :=
  let ns := normalize (ns.flatMap fold)
  let fromRight := within rightToLeft
  match ns.find? (within prohibited) with
  | some n => .error (.invalidCharacter (.ofNat n))
  | none =>
    if !ns.any fromRight then .ok ns
    else if ns.any (within leftToRight) then .error .mixedDirections
    else if ns.head?.any fromRight && ns.getLast?.any fromRight then .ok ns
    else .error .openDirection

end Wikidown.Nameprep
