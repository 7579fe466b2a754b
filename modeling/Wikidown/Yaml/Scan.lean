import Wikidown.Yaml.Token

/-!
# Scanning documents

The tokens of a whole document. Beside the place, the scanner knows the brackets that are open, the
columns of the open blocks, and for each level of brackets the token that may turn out to be a simple
key once a colon follows it on the same line.
-/

namespace Wikidown.Yaml

/-- A token that may turn out to be a key: how many tokens stand before it, whether it has to be a
key, and its place. -/
structure SimpleKey where
  position : Nat
  required : Bool
  index : Nat
  line : Nat
  column : Nat

/-- The state of the scanner. -/
structure Scanner where
  cursor : Cursor
  flow : Nat
  indent : Int
  indents : List Int
  keyAllowed : Bool
  keys : List (Nat × SimpleKey)
  tokens : Array Token

namespace Scanner

/-- The scanner at the beginning of a document. -/
def start (s : Text) : Scanner :=
  ⟨Cursor.start s, 0, -1, [], true, [], #[]⟩

/-- Whether brackets are open. -/
def inFlow (s : Scanner) : Bool :=
  s.flow != 0

/-- The current column. -/
def column (s : Scanner) : Int :=
  s.cursor.column

/-- The scanner with one more token. -/
def push (s : Scanner) (t : Token) : Scanner :=
  { s with tokens := s.tokens.push t }

/-- The scanner with one more token of `width` characters. -/
def pushMark (s : Scanner) (t : Token) (width : Nat) : Scanner :=
  { s with cursor := s.cursor.advance width, tokens := s.tokens.push t }

/-! ## Simple keys -/

/-- How far a key may be from its colon. -/
def maxKeyLength : Nat :=
  1024

/-- Whether a possible key can no longer have its colon. -/
def isStale (s : Scanner) (k : SimpleKey) : Bool :=
  k.line != s.cursor.line || maxKeyLength < s.cursor.index - k.index

/-- Forgets the possible keys that can no longer have their colons. -/
def dropStale (s : Scanner) : Except Trouble Scanner :=
  if s.keys.any fun k => s.isStale k.2 && k.2.required then refuse .staleKey
  else .ok { s with keys := s.keys.filter fun k => !s.isStale k.2 }

/-- Forgets the possible key at the current level. -/
def dropKey (s : Scanner) : Except Trouble Scanner :=
  if s.keys.any fun k => k.1 == s.flow && k.2.required then refuse .staleKey
  else .ok { s with keys := s.keys.filter fun k => k.1 != s.flow }

/-- Remembers that the next token may be a key. -/
def saveKey (s : Scanner) : Except Trouble Scanner :=
  if !s.keyAllowed then .ok s else do
    let s ← s.dropKey
    let required := !s.inFlow && s.indent == s.column
    let key := ⟨s.tokens.size, required, s.cursor.index, s.cursor.line, s.cursor.column⟩
    return { s with keys := (s.flow, key) :: s.keys }

/-! ## Blocks -/

/-- Ends the blocks that are indented beyond a column. -/
def endBlocks (column : Int) : (indent : Int) → (indents : List Int) → Array Token →
    Int × List Int × Array Token
  | indent, [], tokens => (indent, [], tokens)
  | indent, i :: is, tokens =>
    if column < indent then endBlocks column i is (tokens.push .blockEnd) else (indent, i :: is, tokens)

/-- Ends the blocks that are indented beyond a column, outside of brackets. -/
def unwind (s : Scanner) (column : Int) : Scanner :=
  if s.inFlow then s else
    let (indent, indents, tokens) := endBlocks column s.indent s.indents s.tokens
    { s with indent := indent, indents := indents, tokens := tokens }

/-- Begins a block at a column with a token, put at a position, unless one begins there already. -/
def openBlock (s : Scanner) (column : Int) (position : Nat) (t : Token) : Scanner :=
  if s.indent < column then
    { s with
      indent := column, indents := s.indent :: s.indents,
      tokens := s.tokens.insertIdxIfInBounds position t }
  else s

/-! ## Tokens -/

/-- A directive or a document mark ends all blocks, and no key can be before it. -/
def leaveDocument (s : Scanner) : Except Trouble Scanner := do
  let s ← (s.unwind (-1)).dropKey
  return { s with keyAllowed := false }

/-- A directive. -/
def fetchDirective (s : Scanner) : Except Trouble Scanner := do
  let s ← s.leaveDocument
  let (t, c) ← Token.scanDirective s.cursor
  return { s.push t with cursor := c }

/-- The mark at the beginning or the end of a document. -/
def fetchDocumentMark (t : Token) (s : Scanner) : Except Trouble Scanner := do
  let s ← s.leaveDocument
  return s.pushMark t 3

/-- An opening bracket. -/
def fetchOpening (t : Token) (s : Scanner) : Except Trouble Scanner := do
  let s ← s.saveKey
  return { s.pushMark t 1 with flow := s.flow + 1, keyAllowed := true }

/-- A closing bracket. -/
def fetchClosing (t : Token) (s : Scanner) : Except Trouble Scanner := do
  let s ← s.dropKey
  if s.flow = 0 then refuse .unmatchedBracket
  return { s.pushMark t 1 with flow := s.flow - 1, keyAllowed := false }

/-- A comma. -/
def fetchFlowEntry (s : Scanner) : Except Trouble Scanner := do
  let s ← s.dropKey
  return { s.pushMark .flowEntry 1 with keyAllowed := true }

/-- The dash of a sequence entry. -/
def fetchBlockEntry (s : Scanner) : Except Trouble Scanner := do
  if !s.inFlow && !s.keyAllowed then refuse .entryNotAllowed
  let s := if s.inFlow then s else s.openBlock s.column s.tokens.size .blockSequenceStart
  let s ← s.dropKey
  return { s.pushMark .blockEntry 1 with keyAllowed := true }

/-- The question mark of a key. -/
def fetchKey (s : Scanner) : Except Trouble Scanner := do
  if !s.inFlow && !s.keyAllowed then refuse .keyNotAllowed
  let s := if s.inFlow then s else s.openBlock s.column s.tokens.size .blockMappingStart
  let s ← s.dropKey
  return { s.pushMark .key 1 with keyAllowed := !s.inFlow }

/-- The colon of a value. What may be a key before it is one. -/
def fetchValue (s : Scanner) : Except Trouble Scanner :=
  match s.keys.lookup s.flow with
  | some k =>
    let s := { s with
      keys := s.keys.filter fun x => x.1 != s.flow,
      tokens := s.tokens.insertIdxIfInBounds k.position .key,
      keyAllowed := false }
    let s := if s.inFlow then s else s.openBlock k.column k.position .blockMappingStart
    .ok (s.pushMark .value 1)
  | none => do
    if !s.inFlow && !s.keyAllowed then refuse .valueNotAllowed
    let s := if s.inFlow then s else s.openBlock s.column s.tokens.size .blockMappingStart
    let s ← { s with keyAllowed := !s.inFlow }.dropKey
    return s.pushMark .value 1

/-- A token that may be a key and behind which no key begins. -/
def fetchContent (scan : Cursor → Except Trouble (Token × Cursor)) (s : Scanner) :
    Except Trouble Scanner := do
  let s ← s.saveKey
  let (t, c) ← scan s.cursor
  return { s.push t with cursor := c, keyAllowed := false }

/-- A block scalar. -/
def fetchBlockScalar (folded : Bool) (s : Scanner) : Except Trouble Scanner := do
  let s ← s.dropKey
  let (t, c) ← Token.scanBlock folded s.indent s.cursor
  return { s.push t with cursor := c, keyAllowed := true }

/-- A plain scalar. Behind a line end a key may begin again. -/
def fetchPlain (s : Scanner) : Except Trouble Scanner := do
  let s ← s.saveKey
  let (text, broken, c) :=
    Token.scanPlainRuns s.inFlow (s.indent + 1) (s.cursor.rest.length + 1) s.cursor
  return { s.push (.scalar (String.ofList text) true) with cursor := c, keyAllowed := broken }

/-- An anchor or an alias. -/
def scanNamed (t : String → Token) (c : Cursor) : Except Trouble (Token × Cursor) :=
  (Token.scanName c).map fun (name, c) => (t name, c)

/-- The place before the next token. Outside of brackets a key may begin on a new line. -/
def skipToToken : (fuel : Nat) → Scanner → Scanner
  | 0, s => s
  | fuel + 1, s =>
    let c := s.cursor.skipSpaces.skipComment
    match c.lineBreak? with
    | some (_, c) => skipToToken fuel { s with cursor := c, keyAllowed := s.keyAllowed || !s.inFlow }
    | none => { s with cursor := c }

/-- A byte order mark counts for nothing at the beginning of a document. -/
def skipMark (s : Scanner) : Scanner :=
  if s.cursor.index = 0 ∧ s.cursor.isAt byteOrderMark then { s with cursor := s.cursor.next } else s

/-- The token that begins with the character `x`. -/
def fetchAt (s : Scanner) (x : Char) : Except Trouble Scanner :=
  let c := s.cursor
  let spaced := isBlankOrEnd (c.peekAt 1)
  let marked := c.column == 0 && c.isAtDocumentMark
  if x = '%' ∧ c.column = 0 then s.fetchDirective
  else if x = '-' ∧ marked then s.fetchDocumentMark .documentStart
  else if x = '.' ∧ marked then s.fetchDocumentMark .documentEnd
  else if x = '[' then s.fetchOpening .flowSequenceStart
  else if x = '\x7b' then s.fetchOpening .flowMappingStart
  else if x = ']' then s.fetchClosing .flowSequenceEnd
  else if x = '\x7d' then s.fetchClosing .flowMappingEnd
  else if x = ',' then s.fetchFlowEntry
  else if x = '-' ∧ spaced then s.fetchBlockEntry
  else if x = '?' ∧ (s.inFlow ∨ spaced) then s.fetchKey
  else if x = ':' ∧ (s.inFlow ∨ spaced) then s.fetchValue
  else if x = '*' then s.fetchContent (scanNamed .alias)
  else if x = '&' then s.fetchContent (scanNamed .anchor)
  else if x = '!' then s.fetchContent Token.scanTag
  else if x = '|' ∧ !s.inFlow then s.fetchBlockScalar false
  else if x = '>' ∧ !s.inFlow then s.fetchBlockScalar true
  else if x = '\'' then s.fetchContent (Token.scanQuoted false)
  else if x = '"' then s.fetchContent (Token.scanQuoted true)
  else if Token.startsPlain s.inFlow c then s.fetchPlain
  else refuse .unexpectedCharacter

/-- The tokens from here on, and the trouble that ends them if there is some. -/
def run : (fuel : Nat) → Scanner → List Token × Option Trouble
  | 0, s => (s.tokens.toList, some (.complaint .unexpectedCharacter))
  | fuel + 1, s =>
    let s := skipToToken (s.cursor.rest.length + 1) s.skipMark
    match s.dropStale with
    | .error e => (s.tokens.toList, some e)
    | .ok s =>
      let s := s.unwind s.column
      match s.cursor.peek with
      | none =>
        match (s.unwind (-1)).dropKey with
        | .ok s => (s.tokens.toList, none)
        | .error e => (s.tokens.toList, some e)
      | some x =>
        match s.fetchAt x with
        | .ok s => run fuel s
        | .error e => (s.tokens.toList, some e)

end Scanner

/-- The tokens of a document, and the trouble that ends them if there is some. -/
def tokens (s : Text) : List Token × Option Trouble :=
  if s.all isPermitted then Scanner.run (s.length + 1) (Scanner.start s)
  else ([], some (.complaint .unprintable))

end Wikidown.Yaml
