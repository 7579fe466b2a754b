import Wikidown.Text.Case
import Wikidown.Value
import Wikidown.Yaml.Binary
import Wikidown.Yaml.Node
import Wikidown.Yaml.Number
import Wikidown.Yaml.Time

/-!
# The value of a document

Each node has a value by its tag. Collections are taken up in the order in which they are met, and a
node that several others refer to is taken up once, so that a document whose nodes contain themselves
is read too; its value is unfolded as often as it has collections. Only a scalar that is sought in itself
is nested too deeply. `read` gives the value of a text.
-/

namespace Wikidown.Yaml

/-- What is known of a node's value: that of a scalar, or the nodes that a collection is made of. -/
inductive Made
  | scalar (v : Value)
  | list (items : List NodeId)
  | tuples (pairs : List (NodeId × NodeId))
  | set (keys : List NodeId)
  | mapping (pairs : List (NodeId × NodeId))
deriving Inhabited

namespace Made

/-- The value, given the values of all nodes one level below. -/
def value (below : Array Value) : Made → Value
  | scalar v => v
  | list items => .list (items.map (below[·]?.getD .null))
  | tuples pairs =>
    .list (pairs.map fun p => .tuple [below[p.1]?.getD .null, below[p.2]?.getD .null])
  | set keys => .set (keys.map (below[·]?.getD .null))
  | mapping pairs =>
    .ofFields (pairs.map fun p => (below[p.1]?.getD .null, below[p.2]?.getD .null))

/-- Whether a value can be a key. -/
def isKey : Made → Bool
  | scalar _ => true
  | _ => false

/-- The values of all nodes, unfolded some levels deep. -/
def unfold (made : Array (Option Made)) : Nat → Array Value
  | 0 => made.map fun _ => .null
  | n + 1 =>
    let below := unfold made n
    made.map fun m => (m.map (value below)).getD .null

end Made

/-- The state of valuing a document: its nodes, what is known of their values, and the collections in
the order in which they were met. -/
structure Valuer where
  nodes : Array Node
  made : Array (Option Made)
  met : Array NodeId

namespace Valuer

/-- A step of valuing. -/
abbrev Step := StateT Valuer (Except Trouble)

/-- Refuses the document. -/
def refuse {α : Type} (c : Complaint) : Step α :=
  throw (.complaint c)

/-- How deep a search through nodes may go. -/
def maxDepth : Nat :=
  960

/-- A node by its number. -/
def nodeAt (id : NodeId) : Step Node := do
  return (← get).nodes[id]?.getD default

/-- The pairs of a mapping. -/
def pairsOf (id : NodeId) : Step (List (NodeId × NodeId)) := do
  match (← nodeAt id).content with
  | .mapping pairs => return pairs
  | _ => refuse .wrongKind

/-- The items of a sequence. -/
def itemsOf (id : NodeId) : Step (List NodeId) := do
  match (← nodeAt id).content with
  | .sequence items => return items
  | _ => refuse .wrongKind

/-- Changes a node. -/
def changeNode (id : NodeId) (f : Node → Node) : Step Unit :=
  modify fun s => { s with nodes := s.nodes.modify id f }

/-- The text of a scalar. A mapping counts as the scalar that stands under the key for its value. -/
def textOf : (depth : Nat) → NodeId → Step String
  | 0, _ => throw (.misfit .tooDeep)
  | depth + 1, id => do
    match (← nodeAt id).content with
    | .scalar text => return text
    | .sequence _ => refuse .wrongKind
    | .mapping pairs =>
      match ← pairs.findM? fun p => return (← nodeAt p.1).tag == Tag.value with
      | some (_, value) => textOf depth value
      | none => refuse .wrongKind

/-- The words for the truth values. -/
def truthOf? (text : String) : Option Bool :=
  if ["yes", "true", "on"].contains text then some true
  else if ["no", "false", "off"].contains text then some false
  else none

/-- The value of a written time. -/
def timeValue (content : Content) (text : String) : Except Misfit Value :=
  match content with
  | .scalar _ =>
    match Scalar.time? (Scalar.dropLastFeed text.toList) with
    | none => .error .notTime
    | some t => t.check.map fun _ => if t.clock.isSome then .datetime text else .date text
  | _ => .error .collectionAsTime

/-- The value of a text under the tag of a scalar; none if the tag is that of no scalar. -/
def scalarValue? (content : Content) (tag text : String) : Option (Except Trouble Value) :=
  let fit := fun r : Except Misfit Value => r.mapError Trouble.misfit
  if tag = Tag.null then some (.ok .null)
  else if tag = Tag.bool then
    let word := Case.lower text
    some (fit (((truthOf? word).map Value.bool).elim (.error (.notBoolean word)) .ok))
  else if tag = Tag.int then some (fit ((Number.ofScalar text).map .int))
  else if tag = Tag.float then some (fit ((Number.checkScalar text).map fun _ => .real text))
  else if tag = Tag.binary then
    some (((Binary.decode? text.toList).map Value.bytes).elim
      (.error (.complaint .badBinary)) .ok)
  else if tag = Tag.timestamp then some (fit (timeValue content text))
  else if tag = Tag.str then some (.ok (.string text))
  else none

/-- The tags of scalars. -/
def scalarTags : List String :=
  [Tag.null, Tag.bool, Tag.int, Tag.float, Tag.binary, Tag.timestamp, Tag.str]

/-- The tags of collections. -/
def collectionTags : List String :=
  [Tag.seq, Tag.map, Tag.set, Tag.omap, Tag.pairs]

/-- Keeps what is known of a node's value. -/
def keep (id : NodeId) (m : Made) : Step Unit :=
  modify fun s => { s with made := s.made.modify id fun _ => some m }

/-- What is known of a node's value. -/
def made? (id : NodeId) : Step (Option Made) := do
  return ((← get).made[id]?).join

/-- Meets a node: a scalar gets its value, and a collection is put behind those met before. -/
def meet (id : NodeId) : Step Unit := do
  if (← made? id).isSome then return
  let n ← nodeAt id
  if collectionTags.contains n.tag then
    keep id (.list [])
    modify fun s => { s with met := s.met.push id }
  else if scalarTags.contains n.tag then
    let text ← textOf maxDepth id
    match scalarValue? n.content n.tag text with
    | some (.ok v) => keep id (.scalar v)
    | some (.error e) => throw e
    | none => refuse .unknownTag
  else refuse .unknownTag

/-- Takes the merge keys out of a mapping and puts the pairs of the mappings that they name in front of
its own. Of several named in one list the first counts most. A key for the value of a mapping becomes
a text. -/
def flatten : (depth : Nat) → NodeId → Step Unit
  | 0, _ => throw (.misfit .tooDeep)
  | depth + 1, id => do
    let pairs ← pairsOf id
    let tagged ← pairs.mapM fun p => return ((← nodeAt p.1).tag, p)
    let own := (tagged.filter (·.1 != Tag.merge)).map (·.2)
    changeNode id fun n => { n with content := .mapping own }
    for (tag, p) in tagged do
      if tag == Tag.value then changeNode p.1 fun n => { n with tag := Tag.str }
    let merged ← (tagged.filter (·.1 == Tag.merge)).mapM fun (_, p) => do
      match (← nodeAt p.2).content with
      | .mapping _ => flatten depth p.2; pairsOf p.2
      | .sequence items =>
        let parts ← items.mapM fun i => do
          let _ ← pairsOf i
          flatten depth i
          pairsOf i
        return parts.reverse.flatten
      | .scalar _ => refuse .wrongKind
    let own ← pairsOf id
    changeNode id fun n => { n with content := .mapping (merged.flatten ++ own) }

/-- Meets the pairs of a mapping in order, each key before its value. -/
def meetPairs (id : NodeId) : Step (List (NodeId × NodeId)) := do
  let _ ← pairsOf id
  flatten maxDepth id
  let pairs ← pairsOf id
  for (k, v) in pairs do
    meet k
    if !((← made? k).any Made.isKey) then refuse .unhashableKey
    meet v
  return pairs

/-- Meets the only pair of a mapping. -/
def meetSingle (id : NodeId) : Step (NodeId × NodeId) := do
  match ← pairsOf id with
  | [(k, v)] => meet k; meet v; return (k, v)
  | _ => refuse .wrongKind

/-- Takes up a collection: meets all nodes that it is made of. -/
def takeUp (id : NodeId) : Step Unit := do
  let tag := (← nodeAt id).tag
  if tag = Tag.map then keep id (.mapping (← meetPairs id))
  else if tag = Tag.set then keep id (.set ((← meetPairs id).map (·.1)))
  else if tag = Tag.seq then
    let items ← itemsOf id
    items.forM meet
    keep id (.list items)
  else keep id (.tuples (← (← itemsOf id).mapM meetSingle))

/-- Takes up the collections met, from the given one on. -/
def takeUpFrom : (fuel next : Nat) → Step Unit
  | 0, _ => return
  | fuel + 1, next => do
    match (← get).met[next]? with
    | none => return
    | some id => takeUp id; takeUpFrom fuel (next + 1)

end Valuer

/-- The value of a document. -/
def Document.value (d : Document) : Except Trouble Value := do
  let steps : Valuer.Step Unit := do
    Valuer.meet d.root
    Valuer.takeUpFrom (d.nodes.size + 1) 0
  let (_, s) ← steps.run ⟨d.nodes, d.nodes.map fun _ => none, #[]⟩
  return (Made.unfold s.made (s.met.size + 1))[d.root]?.getD .null

/-- The value that a text writes; nothing if there is no document in it. -/
def read (s : Text) : Except Trouble Value := do
  match ← compose s with
  | none => return .null
  | some d => d.value

end Wikidown.Yaml
