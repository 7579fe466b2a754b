import Wikidown.Charset.Utf8
import Wikidown.Yaml.Cursor
import Wikidown.Yaml.Error

/-!
# Tokens

The tokens of a YAML document and the scanning of those that stand alone: directives, anchors, tags
and scalars. Where a scalar runs over several lines, its lines are folded as the style of the scalar
says.
-/

namespace Wikidown.Yaml

/-- What a directive says. -/
inductive Directive
  | version (major minor : Nat)
  | tag (handle replacement : String)
  | other (name : String)
deriving DecidableEq, Repr

/-- The tokens of a document. -/
inductive Token
  | directive (d : Directive)
  | documentStart
  | documentEnd
  | blockSequenceStart
  | blockMappingStart
  | blockEnd
  | flowSequenceStart
  | flowSequenceEnd
  | flowMappingStart
  | flowMappingEnd
  | blockEntry
  | flowEntry
  | key
  | value
  | alias (name : String)
  | anchor (name : String)
  | tag (handle : Option String) (suffix : String)
  | scalar (text : String) (plain : Bool)
deriving DecidableEq, Repr

/-- Refuses the document. -/
def refuse {α : Type} (c : Complaint) : Except Trouble α :=
  .error (.complaint c)

namespace Token

/-! ## Directives -/

/-- The rest of a line on which only a comment may stand. -/
def scanLineEnd (flaw : Complaint) (c : Cursor) : Except Trouble Cursor :=
  let c := c.skipSpaces.skipComment
  match c.lineBreak? with
  | some (_, c) => .ok c
  | none => if c.rest.isEmpty then .ok c else refuse flaw

/-- A number of a version. -/
def scanNumber (c : Cursor) : Except Trouble (Nat × Cursor) :=
  match c.run Char.isDigit with
  | ([], _) => refuse .badDirective
  | (digits, c) => .ok (digits.foldl (fun n d => n * 10 + (d.toNat - '0'.toNat)) 0, c)

/-- The version behind the name of its directive. -/
def scanVersion (c : Cursor) : Except Trouble (Directive × Cursor) := do
  let (major, c) ← scanNumber c.skipSpaces
  if !c.isAt '.' then refuse .badDirective
  let (minor, c) ← scanNumber c.next
  if !isSpaceOrEnd c.peek then refuse .badDirective
  return (.version major minor, c)

/-- The bytes of a run of escapes, each a percent sign and two digits. -/
def scanEscapes : (fuel : Nat) → Cursor → Except Trouble (Bytes × Cursor)
  | 0, c => .ok ([], c)
  | fuel + 1, c =>
    match c.rest with
    | '%' :: a :: b :: _ =>
      if isHexDigit a && isHexDigit b then do
        let (bytes, c) ← scanEscapes fuel (c.advance 3)
        return (UInt8.ofNat (hexNumber [a, b]) :: bytes, c)
      else refuse .badTag
    | '%' :: _ => refuse .badTag
    | _ => .ok ([], c)

/-- The characters that stand for themselves in the text of a tag. -/
def isTagChar (c : Char) : Bool :=
  c.isAlphanum || "-;/?:@&=+$,_.!~*'()[]".toList.contains c

/-- The text of a tag, with its escapes read as UTF-8. -/
def scanTagText (c : Cursor) : Except Trouble (String × Cursor) :=
  let rec go : (fuel : Nat) → Cursor → Except Trouble (Text × Cursor)
    | 0, c => .ok ([], c)
    | fuel + 1, c =>
      match c.run isTagChar with
      | ([], _) =>
        if c.isAt '%' then do
          let (bytes, c) ← scanEscapes c.rest.length c
          match Utf8.decode bytes with
          | .error _ => refuse .badTag
          | .ok s =>
            let (r, c) ← go fuel c
            return (s ++ r, c)
        else .ok ([], c)
      | (s, c) => do
        let (r, c) ← go fuel c
        return (s ++ r, c)
  do
    let (s, after) ← go (c.rest.length + 1) c
    if after.index = c.index then refuse .badTag
    return (String.ofList s, after)

/-- The handle of a tag: exclamation marks around a name that may be missing, or a single one. -/
def scanHandle (flaw : Complaint) (c : Cursor) : Except Trouble (String × Cursor) :=
  if !c.isAt '!' then refuse flaw
  else if c.peekAt 1 == some ' ' then .ok ("!", c.next)
  else
    let (name, c) := c.next.run isNameChar
    if c.isAt '!' then .ok (String.ofList ('!' :: name ++ ['!']), c.next) else refuse flaw

/-- The handle and its replacement behind the name of their directive. -/
def scanTagDirective (c : Cursor) : Except Trouble (Directive × Cursor) := do
  let (handle, c) ← scanHandle .badDirective c.skipSpaces
  if !c.isAt ' ' then refuse .badDirective
  let (replacement, c) ← scanTagText c.skipSpaces
  if !isSpaceOrEnd c.peek then refuse .badDirective
  return (.tag handle replacement, c)

/-- A directive, from its percent sign to the end of the line. -/
def scanDirective (c : Cursor) : Except Trouble (Token × Cursor) := do
  let (name, c) := c.next.run isNameChar
  if name.isEmpty || !isSpaceOrEnd c.peek then refuse .badDirective
  let (d, c) ←
    if name = "YAML".toList then scanVersion c
    else if name = "TAG".toList then scanTagDirective c
    else .ok (.other (String.ofList name), (c.run fun x => !isBreak x).2)
  let c ← scanLineEnd .badDirective c
  return (.directive d, c)

/-! ## Anchors and tags -/

/-- The name behind the sign of an anchor or an alias. -/
def scanName (c : Cursor) : Except Trouble (String × Cursor) := do
  let (name, c) := c.next.run isNameChar
  if name.isEmpty then refuse .badAnchorName
  if !(isBlankOrEnd c.peek || c.peek.all "?:,]\x7d%@`".toList.contains) then refuse .badAnchorName
  return (String.ofList name, c)

/-- A tag: verbatim in angle brackets, the lone mark, or a suffix with or without a handle. -/
def scanTagBody (c : Cursor) : Except Trouble (Token × Cursor) :=
  if c.peekAt 1 == some '<' then do
    let (suffix, c) ← scanTagText (c.advance 2)
    if !c.isAt '>' then refuse .badTag
    return (.tag none suffix, c.next)
  else if isBlankOrEnd (c.peekAt 1) then .ok (.tag none "!", c.next)
  else do
    let hasHandle := (c.next.run fun x => !isSpaceOrEnd (some x)).1.contains '!'
    let (handle, c) ← if hasHandle then scanHandle .badTag c else .ok ("!", c.next)
    let (suffix, c) ← scanTagText c
    return (.tag (some handle) suffix, c)

/-- A tag with a space or the end of the line behind it. -/
def scanTag (c : Cursor) : Except Trouble (Token × Cursor) := do
  let (token, c) ← scanTagBody c
  if !isSpaceOrEnd c.peek then refuse .badTag
  return (token, c)

/-! ## Folding -/

/-- The breaks of empty lines, with the spaces and tabs between them. In a quoted scalar no document
mark may stand at the beginning of a line. -/
def scanQuotedBreaks : (fuel : Nat) → Cursor → Except Trouble (Text × Cursor)
  | 0, _ => refuse .unclosedQuote
  | fuel + 1, c =>
    if c.isAtDocumentMark then refuse .documentMarkInQuote else
    let c := (c.run fun x => x == ' ' || x == '\t').2
    match c.lineBreak? with
    | none => .ok ([], c)
    | some (b, c) => do
      let (bs, c) ← scanQuotedBreaks fuel c
      return (b :: bs, c)

/-- What a line break and the empty lines behind it count for: one line feed alone is a space. -/
def foldBreaks (first : Char) (others : Text) : Text :=
  if first != '\n' then first :: others
  else if others.isEmpty then [' ']
  else others

/-! ## Quoted scalars -/

/-- The characters that escapes of one letter stand for. -/
def escapes : List (Char × Char) :=
  [('0', '\x00'), ('a', '\x07'), ('b', '\x08'), ('t', '\t'), ('\t', '\t'), ('n', '\n'),
    ('v', '\x0b'), ('f', '\x0c'), ('r', '\r'), ('e', '\x1b'), (' ', ' '), ('"', '"'), ('\\', '\\'),
    ('/', '/'), ('N', '\u0085'), ('_', '\u00a0'), ('L', '\u2028'), ('P', '\u2029')]

/-- How many digits the escapes with a number have. -/
def escapeWidth? (c : Char) : Option Nat :=
  if c = 'x' then some 2 else if c = 'u' then some 4 else if c = 'U' then some 8 else none

/-- The character of a number in an escape. Values hold characters only: a surrogate is refused here
already, as it would be in the name of an encoding. -/
def escapedChar (n : Nat) : Except Trouble Char :=
  if n.isValidChar then .ok (Char.ofNat n)
  else if n < 0x110000 then .error (.misfit (.surrogate n))
  else if n < 0x80000000 then .error (.misfit .codePoint)
  else .error (.misfit .codePointSize)

/-- An escape, from the character behind the backslash on. -/
def scanEscape (fuel : Nat) (c : Cursor) : Except Trouble (Text × Cursor) :=
  match c.peek with
  | none => refuse .badEscape
  | some x =>
    match escapes.lookup x, escapeWidth? x with
    | some y, _ => .ok ([y], c.next)
    | none, some width =>
      let digits := c.next.rest.take width
      if digits.length = width ∧ digits.all isHexDigit then do
        let y ← escapedChar (hexNumber digits)
        return ([y], c.advance (width + 1))
      else refuse .badEscape
    | none, none =>
      match c.lineBreak? with
      | some (_, c) => scanQuotedBreaks fuel c
      | none => refuse .badEscape

/-- The characters that stand for themselves in both styles of quotes. -/
def isQuotedChar (c : Char) : Bool :=
  !(c == '\'' || c == '"' || c == '\\' || c == ' ' || c == '\t' || isBreak c)

/-- The text of a quoted scalar up to its closing quote. -/
def scanQuotedText (double : Bool) : (fuel : Nat) → Cursor → Except Trouble (Text × Cursor)
  | 0, _ => refuse .unclosedQuote
  | fuel + 1, c =>
    match c.rest with
    | [] => refuse .unclosedQuote
    | '\'' :: r =>
      if double then do
        let (s, c) ← scanQuotedText double fuel c.next
        return ('\'' :: s, c)
      else if r.head? == some '\'' then do
        let (s, c) ← scanQuotedText double fuel (c.advance 2)
        return ('\'' :: s, c)
      else .ok ([], c.next)
    | '"' :: _ =>
      if double then .ok ([], c.next) else do
        let (s, c) ← scanQuotedText double fuel c.next
        return ('"' :: s, c)
    | '\\' :: _ =>
      if double then do
        let (x, c) ← scanEscape fuel c.next
        let (s, c) ← scanQuotedText double fuel c
        return (x ++ s, c)
      else do
        let (s, c) ← scanQuotedText double fuel c.next
        return ('\\' :: s, c)
    | x :: _ =>
      if isQuotedChar x then do
        let (text, c) := c.run isQuotedChar
        let (s, c) ← scanQuotedText double fuel c
        return (text ++ s, c)
      else do
        let (blanks, c) := c.run fun x => x == ' ' || x == '\t'
        if c.rest.isEmpty then refuse .unclosedQuote
        match c.lineBreak? with
        | none =>
          let (s, c) ← scanQuotedText double fuel c
          return (blanks ++ s, c)
        | some (b, c) =>
          let (bs, c) ← scanQuotedBreaks fuel c
          let (s, c) ← scanQuotedText double fuel c
          return (foldBreaks b bs ++ s, c)

/-- A quoted scalar. -/
def scanQuoted (double : Bool) (c : Cursor) : Except Trouble (Token × Cursor) := do
  let (s, c) ← scanQuotedText double (c.rest.length + 1) c.next
  return (.scalar (String.ofList s) false, c)

/-! ## Block scalars -/

/-- What happens to the line breaks at the end of a block scalar. -/
inductive Chomping
  | strip
  | clip
  | keep
deriving DecidableEq, Repr

/-- The chomping that an indicator asks for. -/
def chomping? (c : Option Char) : Option Chomping :=
  if c == some '+' then some .keep else if c == some '-' then some .strip else none

/-- The number of an indentation indicator. -/
def indentation? (c : Option Char) : Option Nat :=
  c.bind fun c => if c.isDigit then some (c.toNat - '0'.toNat) else none

/-- The indicators behind the sign of a block scalar, in either order. -/
def scanIndicators (c : Cursor) : Except Trouble ((Chomping × Option Nat) × Cursor) := do
  let (chomping, increment, c) :=
    match chomping? c.peek with
    | some chomping =>
      match indentation? c.next.peek with
      | some n => (chomping, some n, c.advance 2)
      | none => (chomping, none, c.next)
    | none =>
      match indentation? c.peek with
      | some n =>
        match chomping? c.next.peek with
        | some chomping => (chomping, some n, c.advance 2)
        | none => (.clip, some n, c.next)
      | none => (.clip, none, c)
  if increment = some 0 ∨ !isSpaceOrEnd c.peek then refuse .badBlockHeader
  return ((chomping, increment), c)

/-- The place up to which spaces reach, but not beyond a column. -/
def skipIndent (indent : Nat) (c : Cursor) : Cursor :=
  c.advance ((c.rest.takeWhile (· == ' ')).take (indent - c.column)).length

/-- The breaks of the empty lines before a line that is indented far enough. -/
def scanBlockBreaks (indent : Nat) : (fuel : Nat) → Cursor → Text × Cursor
  | 0, c => ([], c)
  | fuel + 1, c =>
    let c := skipIndent indent c
    match c.lineBreak? with
    | none => ([], c)
    | some (b, c) =>
      let (bs, c) := scanBlockBreaks indent fuel c
      (b :: bs, c)

/-- The breaks before the first line that is not empty, and the widest column met on the way. -/
def scanIndentation : (fuel widest : Nat) → Cursor → Text × Nat × Cursor
  | 0, widest, c => ([], widest, c)
  | fuel + 1, widest, c =>
    let c := c.skipSpaces
    let widest := max widest c.column
    match c.lineBreak? with
    | none => ([], widest, c)
    | some (b, c) =>
      let (bs, widest, c) := scanIndentation fuel widest c
      (b :: bs, widest, c)

/-- The lines of a block scalar, from a line that is indented far enough: their text, the break behind
the last of them, and the breaks of the empty lines at the end. -/
def scanBlockLines (folded : Bool) (indent : Nat) : (fuel : Nat) → Cursor →
    Text × Option Char × Text × Cursor
  | 0, c => ([], none, [], c)
  | fuel + 1, c =>
    let startsInk := !(c.isAt ' ' || c.isAt '\t')
    let (line, c) := c.run fun x => !isBreak x
    let (b, c) :=
      match c.lineBreak? with
      | some (b, c) => (some b, c)
      | none => (none, c)
    let (bs, c) := scanBlockBreaks indent c.rest.length c
    if c.column = indent ∧ !c.rest.isEmpty then
      let joint :=
        if folded && b == some '\n' && startsInk && !(c.isAt ' ' || c.isAt '\t') then
          if bs.isEmpty then [' '] else []
        else b.toList
      let (s, last, tail, c) := scanBlockLines folded indent fuel c
      (line ++ joint ++ bs ++ s, last, tail, c)
    else (line, b, bs, c)

/-- A block scalar below a block at column `parent`. -/
def scanBlock (folded : Bool) (parent : Int) (c : Cursor) : Except Trouble (Token × Cursor) := do
  let ((chomping, increment), c) ← scanIndicators c.next
  let c ← scanLineEnd .badBlockHeader c
  let least := max 1 (parent + 1).toNat
  let (breaks, indent, c) :=
    match increment with
    | some n =>
      let indent := least + n - 1
      let (bs, c) := scanBlockBreaks indent c.rest.length c
      (bs, indent, c)
    | none =>
      let (bs, widest, c) := scanIndentation (c.rest.length + 1) 0 c
      (bs, max least widest, c)
  let (s, last, tail, c) :=
    if c.column = indent ∧ !c.rest.isEmpty then
      let (s, last, tail, c) := scanBlockLines folded indent c.rest.length c
      (breaks ++ s, last, tail, c)
    else ([], none, breaks, c)
  let ending :=
    match chomping with
    | .strip => []
    | .clip => last.toList
    | .keep => last.toList ++ tail
  return (.scalar (String.ofList (s ++ ending)) false, c)

/-! ## Plain scalars -/

/-- Whether a plain scalar can begin there. -/
def startsPlain (inFlow : Bool) (c : Cursor) : Bool :=
  match c.peek with
  | none => false
  | some x =>
    !(isBlankOrEnd (some x) || "-?:,[]\x7b\x7d#&*!|>'\"%@`".toList.contains x) ||
      (!isBlankOrEnd (c.peekAt 1) && (x == '-' || (!inFlow && (x == '?' || x == ':'))))

/-- The characters that end a plain scalar inside brackets. -/
def isFlowEnd (c : Char) : Bool :=
  ",?[]\x7b\x7d".toList.contains c

/-- Whether a colon before the character `next` ends a plain scalar. -/
def colonEnds (inFlow : Bool) (next : Option Char) : Bool :=
  isBlankOrEnd next || (inFlow && next.any ",[]\x7b\x7d".toList.contains)

/-- The run of characters of a plain scalar up to a blank or an indicator. -/
def plainRun (inFlow : Bool) : Text → Text
  | [] => []
  | x :: r =>
    if isBlankOrEnd (some x) || (x == ':' && colonEnds inFlow r.head?) || (inFlow && isFlowEnd x)
    then [] else x :: plainRun inFlow r

/-- The breaks of the empty lines inside a plain scalar, unless a document mark follows. -/
def scanPlainBreaks : (fuel : Nat) → Cursor → Option Text × Cursor
  | 0, c => (none, c)
  | fuel + 1, c =>
    if c.isAtDocumentMark then (none, c) else
    let c := c.skipSpaces
    match c.lineBreak? with
    | none => (some [], c)
    | some (b, c) =>
      match scanPlainBreaks fuel c with
      | (some bs, c) => (some (b :: bs), c)
      | (none, c) => (none, c)

/-- What stands between two runs of a plain scalar, folded; whether a line ended in it; and the place
behind it. -/
def scanPlainSpaces (c : Cursor) : Text × Bool × Cursor :=
  let (spaces, c) := c.run (· == ' ')
  match c.lineBreak? with
  | none => (spaces, false, c)
  | some (b, c) =>
    match scanPlainBreaks (c.rest.length + 1) c with
    | (some bs, c) => (foldBreaks b bs, true, c)
    | (none, c) => ([], true, c)

/-- The runs of a plain scalar, with what stands between them; whether a line ended behind the last
one; and the place behind it. -/
def scanPlainRuns (inFlow : Bool) (indent : Int) : (fuel : Nat) → Cursor → Text × Bool × Cursor
  | 0, c => ([], false, c)
  | fuel + 1, c =>
    let run := plainRun inFlow c.rest
    let (spaces, broken, after) := scanPlainSpaces (c.advance run.length)
    if spaces.isEmpty || after.isAt '#' || (!inFlow && (after.column : Int) < indent) ||
      (plainRun inFlow after.rest).isEmpty
    then (run, broken, after)
    else
      let (s, broken, c) := scanPlainRuns inFlow indent fuel after
      (run ++ spaces ++ s, broken, c)

end Token

end Wikidown.Yaml
