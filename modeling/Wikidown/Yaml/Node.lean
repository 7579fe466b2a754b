import Wikidown.Yaml.Scalar
import Wikidown.Yaml.Scan

/-!
# Nodes

The nodes of a document: scalars, sequences and mappings with their tags. An alias is the node that
its anchor names, so that nodes refer to each other by number and may even contain themselves.
`Composer.node` composes a node from the tokens in front.
-/

namespace Wikidown.Yaml

/-- The number of a node in its document. -/
abbrev NodeId := Nat

/-- What a node holds. -/
inductive Content
  | scalar (text : String)
  | sequence (items : List NodeId)
  | mapping (pairs : List (NodeId × NodeId))
deriving DecidableEq, Repr, Inhabited

/-- A node: its tag and what it holds. -/
structure Node where
  tag : String
  content : Content
deriving DecidableEq, Repr, Inhabited

/-- A document: all nodes, and which of them is the root. -/
structure Document where
  nodes : Array Node
  root : NodeId

/-- The state of composing: the tokens left, the nodes so far, the anchors met, what the handles of tags
stand for, and how many collections are open. -/
structure Composer where
  tokens : List Token
  nodes : Array Node
  anchors : List (String × NodeId)
  handles : List (String × String)
  depth : Nat

namespace Composer

/-- A step of composing. The end of the tokens is no trouble of its own: `none` stands for it. -/
abbrev Step := StateT Composer (Except (Option Trouble))

/-- Refuses the document. -/
def refuse {α : Type} (c : Complaint) : Step α :=
  throw (some (.complaint c))

/-- Stops because nodes are nested too deeply. -/
def stopDeep {α : Type} : Step α :=
  throw (some (.misfit .tooDeep))

/-- How many collections may be open. -/
def maxDepth : Nat :=
  480

/-- Composes what a collection holds. -/
def deeper {α : Type} (step : Step α) : Step α := do
  if maxDepth ≤ (← get).depth then stopDeep
  modify fun s => { s with depth := s.depth + 1 }
  let a ← step
  modify fun s => { s with depth := s.depth - 1 }
  return a

/-- The next token. -/
def peek : Step Token := do
  match (← get).tokens with
  | t :: _ => return t
  | [] => throw none

/-- Leaves the next token behind. -/
def skip : Step Unit :=
  modify fun s => { s with tokens := s.tokens.tail }

/-- Whether one of some tokens is next. -/
def isAt (ts : List Token) : Step Bool := do
  return ts.contains (← peek)

/-- Adds a node, named by an anchor if there is one. -/
def addNode (anchor : Option String) (n : Node) : Step NodeId :=
  modifyGet fun s =>
    let anchors := anchor.toList.map (·, s.nodes.size) ++ s.anchors
    (s.nodes.size, { s with nodes := s.nodes.push n, anchors := anchors })

/-- Fills in what a node holds. -/
def fill (id : NodeId) (c : Content) : Step Unit :=
  modify fun s => { s with nodes := s.nodes.modify id fun n => { n with content := c } }

/-- The node that stands where nothing is written. -/
def emptyNode : Step NodeId :=
  addNode none ⟨Tag.null, .scalar ""⟩

/-- What a tag stands for. -/
def expandTag (handle : Option String) (suffix : String) : Step String := do
  match handle with
  | none => return suffix
  | some h =>
    match (← get).handles.lookup h with
    | some replacement => return replacement ++ suffix
    | none => refuse .undefinedHandle

/-- The anchor and the tag in front of a node, in either order. -/
def properties : Step (Option String × Option String) := do
  match ← peek with
  | .anchor a =>
    skip
    match ← peek with
    | .tag h s => skip; return (some a, some (← expandTag h s))
    | _ => return (some a, none)
  | .tag h s =>
    skip
    match ← peek with
    | .anchor a => skip; return (some a, some (← expandTag h s))
    | _ => return (none, some (← expandTag h s))
  | _ => return (none, none)

/-- The tag of a collection, if none or only the lone mark is written. -/
def collectionTag (tag : Option String) (usual : String) : String :=
  match tag with
  | none => usual
  | some t => if t = "!" then usual else t

/-- The tag of a scalar: a plain one without a tag, or any one with the lone mark, has the tag of its
form. -/
def scalarTag (tag : Option String) (text : String) (plain : Bool) : String :=
  match tag with
  | none => if plain then Scalar.tag text else Tag.str
  | some t => if t = "!" then Scalar.tag text else t

/-- Refuses an anchor that is taken. -/
def checkAnchor (anchor : Option String) : Step Unit := do
  match anchor with
  | none => return
  | some a => if ((← get).anchors.lookup a).isSome then refuse .repeatedAnchor

mutual

/-- A node. Where `block` says so it may be a block, and where `indentless` says so a sequence whose
dashes are not indented. -/
def node (block indentless : Bool) : (fuel : Nat) → Step NodeId
  | 0 => stopDeep
  | fuel + 1 => do
    match ← peek with
    | .alias a =>
      skip
      match (← get).anchors.lookup a with
      | some id => return id
      | none => refuse .undefinedAlias
    | _ =>
      let (anchor, tag) ← properties
      checkAnchor anchor
      let sequence := addNode anchor ⟨collectionTag tag Tag.seq, .sequence []⟩
      let mapping := addNode anchor ⟨collectionTag tag Tag.map, .mapping []⟩
      let t ← peek
      if indentless && t == .blockEntry then
        let id ← sequence
        fill id (.sequence (← deeper (indentlessItems fuel)))
        return id
      match t with
      | .scalar text plain =>
        skip
        addNode anchor ⟨scalarTag tag text plain, .scalar text⟩
      | .flowSequenceStart =>
        skip
        let id ← sequence
        fill id (.sequence (← deeper (flowItems true fuel)))
        return id
      | .flowMappingStart =>
        skip
        let id ← mapping
        fill id (.mapping (← deeper (flowPairs true fuel)))
        return id
      | t =>
        if block && t == .blockSequenceStart then
          skip
          let id ← sequence
          fill id (.sequence (← deeper (blockItems fuel)))
          return id
        else if block && t == .blockMappingStart then
          skip
          let id ← mapping
          fill id (.mapping (← deeper (blockPairs fuel)))
          return id
        else if anchor.isSome || tag.isSome then
          addNode anchor ⟨scalarTag tag "" true, .scalar ""⟩
        else refuse .expectedContent

/-- The items of a block sequence. -/
def blockItems : (fuel : Nat) → Step (List NodeId)
  | 0 => stopDeep
  | fuel + 1 => do
    match ← peek with
    | .blockEntry =>
      skip
      let item ← if ← isAt [.blockEntry, .blockEnd] then emptyNode else node true false fuel
      return item :: (← blockItems fuel)
    | .blockEnd => skip; return []
    | _ => refuse .expectedBlockEnd

/-- The items of a sequence whose dashes are not indented. -/
def indentlessItems : (fuel : Nat) → Step (List NodeId)
  | 0 => stopDeep
  | fuel + 1 => do
    match ← peek with
    | .blockEntry =>
      skip
      let item ←
        if ← isAt [.blockEntry, .key, .value, .blockEnd] then emptyNode else node true false fuel
      return item :: (← indentlessItems fuel)
    | _ => return []

/-- The pairs of a block mapping. -/
def blockPairs : (fuel : Nat) → Step (List (NodeId × NodeId))
  | 0 => stopDeep
  | fuel + 1 => do
    match ← peek with
    | .key =>
      skip
      let key ← if ← isAt [.key, .value, .blockEnd] then emptyNode else node true true fuel
      let value ← blockValue fuel
      return (key, value) :: (← blockPairs fuel)
    | .blockEnd => skip; return []
    | _ => refuse .expectedBlockEnd

/-- The value of a pair of a block mapping, which may be missing. -/
def blockValue : (fuel : Nat) → Step NodeId
  | 0 => stopDeep
  | fuel + 1 => do
    match ← peek with
    | .value =>
      skip
      if ← isAt [.key, .value, .blockEnd] then emptyNode else node true true fuel
    | _ => emptyNode

/-- The items of a sequence in brackets. A pair without braces is a mapping of its own. -/
def flowItems (first : Bool) : (fuel : Nat) → Step (List NodeId)
  | 0 => stopDeep
  | fuel + 1 => do
    if ← isAt [.flowSequenceEnd] then
      skip
      return []
    if !first then
      if ← isAt [.flowEntry] then skip else refuse .expectedSeparator
    match ← peek with
    | .flowSequenceEnd => skip; return []
    | .key =>
      skip
      let id ← addNode none ⟨Tag.map, .mapping []⟩
      let key ←
        if ← isAt [.value, .flowEntry, .flowSequenceEnd] then emptyNode else node false false fuel
      let value ← flowValue .flowSequenceEnd fuel
      fill id (.mapping [(key, value)])
      return id :: (← flowItems false fuel)
    | _ =>
      let item ← node false false fuel
      return item :: (← flowItems false fuel)

/-- The pairs of a mapping in braces. -/
def flowPairs (first : Bool) : (fuel : Nat) → Step (List (NodeId × NodeId))
  | 0 => stopDeep
  | fuel + 1 => do
    if ← isAt [.flowMappingEnd] then
      skip
      return []
    if !first then
      if ← isAt [.flowEntry] then skip else refuse .expectedSeparator
    match ← peek with
    | .flowMappingEnd => skip; return []
    | .key =>
      skip
      let key ←
        if ← isAt [.value, .flowEntry, .flowMappingEnd] then emptyNode else node false false fuel
      let value ← flowValue .flowMappingEnd fuel
      return (key, value) :: (← flowPairs false fuel)
    | _ =>
      let key ← node false false fuel
      let value ← emptyNode
      return (key, value) :: (← flowPairs false fuel)

/-- The value of a pair in brackets or braces, which may be missing. -/
def flowValue (closing : Token) : (fuel : Nat) → Step NodeId
  | 0 => stopDeep
  | fuel + 1 => do
    match ← peek with
    | .value =>
      skip
      if ← isAt [.flowEntry, closing] then emptyNode else node false false fuel
    | _ => emptyNode

end

/-- The handles that every document has. -/
def usualHandles : List (String × String) :=
  [("!", "!"), ("!!", Tag.root)]

/-- The directives in front of a document, with the handles defined so far. -/
def directives : (fuel : Nat) → (versioned : Bool) → List (String × String) →
    Step (List (String × String))
  | 0, _, handles => return handles
  | fuel + 1, versioned, handles => do
    match (← get).tokens with
    | .directive d :: _ =>
      skip
      match d with
      | .version major _ =>
        if versioned then refuse .repeatedDirective
        if major ≠ 1 then refuse .unsupportedVersion
        directives fuel true handles
      | .tag handle replacement =>
        if (handles.lookup handle).isSome then refuse .repeatedDirective
        directives fuel versioned (handles ++ [(handle, replacement)])
      | .other _ => directives fuel versioned handles
    | _ => return handles

/-- Leaves the marks of a document's end behind. -/
def skipEnds : Step Unit :=
  modify fun s => { s with tokens := s.tokens.dropWhile (· == .documentEnd) }

/-- The only document among the tokens, or none. `complete` says whether the tokens end because the
text does. -/
def document (complete : Bool) : Step (Option NodeId) := do
  let s ← get
  let fuel := 8 * (s.tokens.length + 4)
  let atEnd : Step Bool := do
    if (← get).tokens.isEmpty then
      if complete then return true else throw none
    return false
  if ← atEnd then return none
  let root ←
    match ← peek with
    | .directive _ | .documentStart =>
      let handles ← directives s.tokens.length false []
      modify fun s => { s with handles := handles ++ usualHandles }
      if (← get).tokens.isEmpty && complete then refuse .expectedDocumentStart
      if !(← isAt [.documentStart]) then refuse .expectedDocumentStart
      skip
      if ← atEnd then emptyNode
      else
        match ← peek with
        | .directive _ | .documentStart | .documentEnd => emptyNode
        | _ => node true false fuel
    | _ =>
      modify fun s => { s with handles := usualHandles }
      node true false fuel
  skipEnds
  if ← atEnd then return some root
  refuse .secondDocument

end Composer

/-- The document that a text writes; none if there is nothing in it. -/
def compose (s : Text) : Except Trouble (Option Document) :=
  let (tokens, trouble) := tokens s
  match (Composer.document trouble.isNone).run ⟨tokens, #[], [], [], 0⟩ with
  | .ok (none, _) => .ok none
  | .ok (some root, c) => .ok (some ⟨c.nodes, root⟩)
  | .error (some t) => .error t
  | .error none => .error (trouble.getD (.complaint .expectedContent))

end Wikidown.Yaml
