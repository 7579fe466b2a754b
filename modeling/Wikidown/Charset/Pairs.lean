import Wikidown.Charset.Reading

/-!
# Pair tables

In a pair table a lead byte and the byte behind it stand for a character. `PairTable.next` reads
bytes among which single ones stand for themselves and all others lead a pair.
-/

namespace Wikidown

/-- The characters of pairs: a row for each lead byte from the first on, and in it a column for each
second byte from the first on. A dot stands for none. -/
structure PairTable where
  firstLead : Nat
  firstTrail : Nat
  rows : Array (Array Char)

namespace PairTable

/-- The table with the given rows. -/
def ofRows (firstLead firstTrail : Nat) (rows : List String) : PairTable :=
  ⟨firstLead, firstTrail, (rows.map fun r => r.toList.toArray).toArray⟩

/-- The character of a pair. -/
def char? (t : PairTable) (lead trail : UInt8) : Option Char :=
  if lead.toNat < t.firstLead ∨ trail.toNat < t.firstTrail then none else
  (t.rows[lead.toNat - t.firstLead]?.bind fun row =>
    row[trail.toNat - t.firstTrail]?).filter (· != '.')

/-- The characters of a pair: those listed for it, or else the one of the table. -/
def chars? (t : PairTable) (listed : List ((Nat × Nat) × List Nat)) (lead trail : UInt8) :
    Option Text :=
  match listed.lookup (lead.toNat, trail.toNat) with
  | some ns => some (ns.map Char.ofNat)
  | none => (t.char? lead trail).map fun c => [c]

end PairTable

/-- What a byte does on its own: it stands for a character, leads a longer code, or is no code. -/
inductive ByteRole
  | char (c : Char)
  | lead
  | illegal

/-- Below 128 a byte is its own character; from there on it leads a pair. -/
def asciiRole (b : UInt8) : ByteRole :=
  if b < 0x80 then .char (Char.ofNat b.toNat) else .lead

/-- Reads single bytes by their role, and a pair at a lead byte. -/
def readPair (role : UInt8 → ByteRole) (chars? : UInt8 → UInt8 → Option Text) (b : UInt8) :
    Bytes → Reading Char
  | r =>
    match role b, r with
    | .char c, _ => .chars [c] 0
    | .illegal, _ => .flaw .illegalSequence 1
    | .lead, [] => .flaw .incompleteSequence 1
    | .lead, t :: _ =>
      match chars? b t with
      | some cs => .chars cs 1
      | none => .flaw .illegalSequence 1

end Wikidown
