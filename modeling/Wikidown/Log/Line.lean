import Wikidown.Log
import Wikidown.Text.Quoted

/-!
# Lines of the log

How an event is written: as one line that holds a JSON object. Characters beyond ASCII are written as
escapes of their UTF-16 units.
-/

namespace Wikidown

namespace Event

/-- A unit of UTF-16 as an escape. -/
def unitEscape (n : Nat) : List Char :=
  '\\' :: 'u' :: Quoted.hex 4 n

/-- A character of a JSON string. -/
def escape (c : Char) : List Char :=
  let n := c.toNat
  if c = '"' ∨ c = '\\' then ['\\', c]
  else if c = '\n' then ['\\', 'n']
  else if c = '\r' then ['\\', 'r']
  else if c = '\t' then ['\\', 't']
  else if c = '\x08' then ['\\', 'b']
  else if c = '\x0c' then ['\\', 'f']
  else if 0x20 ≤ n ∧ n < 0x7F then [c]
  else if n < 0x10000 then unitEscape n
  else unitEscape (0xD800 + (n - 0x10000) / 0x400) ++ unitEscape (0xDC00 + (n - 0x10000) % 0x400)

/-- A JSON string. -/
def quoted (s : String) : String :=
  String.ofList ('"' :: s.toList.flatMap escape ++ ['"'])

/-- A part as JSON. -/
def Part.written : Part → String
  | text s => quoted s
  | count n => toString n
  | flag true => "true"
  | flag false => "false"
  | nothing => "null"

/-- The line of an event. -/
def line (e : Event) : String :=
  let fields := e.record.map fun (name, part) => quoted name ++ ": " ++ part.written
  "\x7b" ++ ", ".intercalate fields ++ "\x7d"

end Event

end Wikidown
