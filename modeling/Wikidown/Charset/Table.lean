/-!
# Byte tables

A byte table gives each byte its character, or none.
-/

namespace Wikidown

/-- The characters of the 256 bytes in order. The replacement character stands for none. -/
structure ByteTable where
  chars : Array Char

namespace ByteTable

/-- The table of all 256 characters. -/
def ofAll (s : String) : ByteTable :=
  ⟨s.toList.toArray⟩

/-- The table that is ASCII below 128 and has the given characters from there on. -/
def ofUpperHalf (s : String) : ByteTable :=
  ⟨((List.range 128).map Char.ofNat ++ s.toList).toArray⟩

/-- The character of a byte. -/
def char? (t : ByteTable) (b : UInt8) : Option Char :=
  t.chars[b.toNat]?.filter (· != '\uFFFD')

end ByteTable

end Wikidown
