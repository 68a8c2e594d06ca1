import SchemaToJava.Yaml.Node
import SchemaToJava.Yaml.Value

/-!
Documents of values. Collections are told apart by the numbers of their nodes, since one may stand
in several places, and also inside itself; written out, it is followed until it is met again.
-/

namespace SchemaToJava.Yaml

inductive Item where
  | value (v : Value)
  | collection (id : NodeId)
  deriving Repr

inductive Collection where
  | list (items : List Item)
  | pairs (items : List (Item × Item))
  | mapping (entries : List (Value × Item))
  | set (items : List Value)
  deriving Repr

structure Document where
  root : Item
  collections : List (NodeId × Collection)
  deriving Repr

namespace Document

def empty : Document := ⟨.value .null, []⟩

def collection? (d : Document) (id : NodeId) : Option Collection := d.collections.lookup id

/-- Something that encloses others: a collection, or one pair of a list of pairs. -/
structure Place where
  id : NodeId
  pair : Option Nat
  deriving DecidableEq, Repr

def placesOf : NodeId × Collection → List Place
  | (id, .pairs items) => ⟨id, none⟩ :: items.mapIdx fun i _ => ⟨id, some i⟩
  | (id, _) => [⟨id, none⟩]

def places (d : Document) : List Place := d.collections.flatMap placesOf

def unlessAround (around : List Place) (p : Place) (s : Shape) (write : List Place → Value) :
    Value :=
  if around.contains p then .again s else write (p :: around)

def parts (around : List Place) (id : NodeId) (write : List Place → Item → Value) :
    Collection → Value
  | .list items => .list (items.map (write around))
  | .mapping entries => .mapping (entries.map fun (k, item) => (k, write around item))
  | .set items => .set items
  | .pairs items => .list (items.mapIdx fun i (a, b) =>
      unlessAround around ⟨id, some i⟩ .pair fun around => .pair (write around a) (write around b))

def Collection.shape : Collection → Shape
  | .list _ | .pairs _ => .list
  | .mapping _ | .set _ => .mapping

/-- The value of an item inside some places. Each step in adds a place, so `fuel` does not run out
when it exceeds the number of places. -/
def write (d : Document) : (fuel : Nat) → (around : List Place) → Item → Value
  | _, _, .value v => v
  | 0, _, .collection _ => .null
  | fuel + 1, around, .collection id =>
    match d.collection? id with
    | some c => unlessAround around ⟨id, none⟩ (Collection.shape c) fun around =>
        parts around id (d.write fuel) c
    | none => .null

def valueOf (d : Document) (item : Item) : Value := d.write (d.places.length + 1) [] item

/-- The value of an item whose parts are taken for themselves: each is written out as if it stood
nowhere. -/
def opened (d : Document) : Item → Value
  | .value v => v
  | .collection id =>
    ((d.collection? id).map (parts [] id (d.write (d.places.length + 1)))).getD .null

def entries? (d : Document) : Option (List (Value × Item)) :=
  match d.root with
  | .value _ => none
  | .collection id =>
    match d.collection? id with
    | some (.mapping entries) => some entries
    | _ => none

/-- A list that holds itself is written once, and named where it is met again. -/
example : (Document.valueOf ⟨.collection 0, [(0, .list [.value (.int 1), .collection 0])]⟩
    (.collection 0)).inner = "[1, [...]]" := by decide

end Document

end SchemaToJava.Yaml
