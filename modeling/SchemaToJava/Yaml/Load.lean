import SchemaToJava.Yaml.Composition
import SchemaToJava.Yaml.Document
import SchemaToJava.Yaml.Merge
import SchemaToJava.Yaml.Scalar

/-!
From nodes to values. Scalars become values where they are met; collections are filled one after
the other, in the order in which they were first met, so of several mistakes the outer one counts.
-/

namespace SchemaToJava.Yaml

/-- The nodes, the items that have been made of them, the collections still to be filled, last one
first, and those that are. -/
structure Loading where
  graph : Graph
  known : List (NodeId × Item)
  waiting : List NodeId
  filled : List (NodeId × Collection)

abbrev Loader := StateT Loading (Except LoadError)

namespace Loader

def malformed {α : Type} : Loader α := throw .malformed

def merging {α : Type} (x : Merging α) : Loader α := do
  let l ← get
  let (a, graph) ← x l.graph
  set { l with graph }
  return a

def node (id : NodeId) : Loader Node := do
  match (← get).graph.get? id with
  | some n => return n
  | none => malformed

def scalarText : (fuel : Nat) → NodeId → Loader Text.Wide
  | 0, _ => malformed
  | fuel + 1, id => do
    let g := (← get).graph
    match (← node id).content with
    | .scalar t => return t
    | .mapping entries =>
      match entries.find? fun (k, _) => g.hasTag .default k with
      | some (_, v) => scalarText fuel v
      | none => malformed
    | .sequence _ => malformed

def scalar (id : NodeId) (n : Node) (read : Text.Wide → Except LoadError Value) :
    Loader Value := do
  let t ← scalarText ((← get).graph.size + 1) id
  match n.tag, n.content with
  | .timestamp, .mapping _ => throw (.scalar .momentOfMapping)
  | _, _ => read t

def isCollectionTag (t : Tag) : Bool :=
  t = .list || t = .mapping || t = .set || t = .orderedMapping || t = .pairs

def item (id : NodeId) : Loader Item := do
  if let some i := (← get).known.lookup id then return i
  let n ← node id
  let i ← match Scalar.reader? n.tag with
    | some read => .value <$> scalar id n read
    | none =>
      if isCollectionTag n.tag then
        modify fun l => { l with waiting := id :: l.waiting }
        pure (.collection id)
      else malformed
  modify fun l => { l with known := (id, i) :: l.known }
  return i

structure Key where
  node : NodeId
  value : Value
  deriving Repr

/-- Whether two keys are the same. A node is the same key as itself, whatever its value. -/
def Key.isSame (a b : Key) : Bool := a.node == b.node || a.value.sameKey b.value

/-- Gives a key an item. A key that is there already keeps its place and its own form. -/
def put (entries : List (Key × Item)) (k : Key) (v : Item) : List (Key × Item) :=
  if entries.any fun e => e.1.isSame k then
    entries.map fun e => if e.1.isSame k then (e.1, v) else e
  else entries ++ [(k, v)]

def key (id : NodeId) : Loader Key := do
  match ← item id with
  | .value v => return ⟨id, v⟩
  | .collection _ => malformed

def mapping (id : NodeId) : Loader (List (Value × Item)) := do
  merging (Merging.takeIn id)
  let entries ← merging (Merging.entries id)
  let put ← entries.foldlM (fun done (k, v) => do
    let k ← key k
    return put done k (← item v)) []
  return put.map fun (k, v) => (k.value, v)

def pair (id : NodeId) : Loader (Item × Item) := do
  match (← node id).content with
  | .mapping [(k, v)] => return (← item k, ← item v)
  | _ => malformed

def mappingExpected {α : Type} (mark : Option Mark) (found : NodeKind) : Loader α :=
  match mark with
  | some m => throw (.mappingExpected found m)
  | none => malformed

def collection (id : NodeId) : Loader Collection := do
  let n ← node id
  match n.tag, n.content with
  | .list, .sequence items => .list <$> items.mapM item
  | .orderedMapping, .sequence items => .pairs <$> items.mapM pair
  | .pairs, .sequence items => .pairs <$> items.mapM pair
  | .mapping, .mapping _ => .mapping <$> mapping id
  | .set, .mapping _ => (fun es => .set (es.map (·.1))) <$> mapping id
  | .mapping, c | .set, c => mappingExpected n.mark c.kind
  | _, _ => malformed

def fill (id : NodeId) : Loader Unit := do
  let c ← collection id
  modify fun l => { l with filled := (id, c) :: l.filled }

/-- Fills collections until none is waiting. Each round fills one at least, and none twice. -/
def fillAll : (fuel : Nat) → Loader Unit
  | 0 => malformed
  | fuel + 1 => do
    let waiting := (← get).waiting.reverse
    unless waiting.isEmpty do
      modify fun l => { l with waiting := [] }
      waiting.forM fill
      fillAll fuel

def document (root : NodeId) : Loader Document := do
  let i ← item root
  fillAll ((← get).graph.size + 1)
  return ⟨i, (← get).filled⟩

end Loader

def Document.ofSource? (s : Source) : Except LoadError Document := do
  match ← Graph.ofSource? s with
  | none => return .empty
  | some (root, graph) =>
    let (d, _) ← Loader.document root ⟨graph, [], [], []⟩
    return d

def Document.ofBytes? (bytes : List UInt8) : Except LoadError Document := do
  Document.ofSource? (← Source.ofBytes bytes)

end SchemaToJava.Yaml
