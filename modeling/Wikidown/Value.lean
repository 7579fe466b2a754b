import Wikidown.Charset.Reading

/-!
# Values

The values that a document of data can hold. A mapping is the list of its fields in the order of
their first mention; a later field of the same name takes the place of the earlier one.
-/

namespace Wikidown

/-- A value of a document. Real numbers and times are kept as they are written. -/
inductive Value
  | null
  | bool (b : Bool)
  | int (n : Int)
  | real (written : String)
  | string (s : String)
  | bytes (b : Bytes)
  | date (written : String)
  | datetime (written : String)
  | list (items : List Value)
  | tuple (items : List Value)
  | set (items : List Value)
  | mapping (fields : List (Value × Value))
deriving Inhabited

namespace Value

/-- The word for the kind of a value. -/
def kind : Value → String
  | null => "NoneType"
  | bool _ => "bool"
  | int _ => "int"
  | real _ => "float"
  | string _ => "str"
  | bytes _ => "bytes"
  | date _ => "date"
  | datetime _ => "datetime"
  | list _ => "list"
  | tuple _ => "tuple"
  | set _ => "set"
  | mapping _ => "dict"

/-- The fields with one more. A text that is a key already keeps its place and gets the new value. -/
def putField (key value : Value) : List (Value × Value) → List (Value × Value)
  | [] => [(key, value)]
  | (k, v) :: fields =>
    match key, k with
    | string a, string b =>
      if a = b then (k, value) :: fields else (k, v) :: putField key value fields
    | _, _ => (k, v) :: putField key value fields

/-- The mapping that some fields in their order make. -/
def ofFields (fields : List (Value × Value)) : Value :=
  mapping (fields.foldl (fun made field => putField field.1 field.2 made) [])

end Value

end Wikidown
