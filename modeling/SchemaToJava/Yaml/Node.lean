import SchemaToJava.Text.Wide
import SchemaToJava.Yaml.Mark

/-!
The nodes of a YAML document: scalars, sequences and mappings with their tags. Nodes refer to each
other by number, so that one may stand in several places, and also inside itself.
-/

namespace SchemaToJava.Yaml

inductive Tag where
  | null
  | boolean
  | int
  | float
  | binary
  | timestamp
  | orderedMapping
  | pairs
  | set
  | text
  | list
  | mapping
  | merge
  | default
  | unknown
  deriving DecidableEq, Repr

def Tag.family : String := "tag:yaml.org,2002:"

def Tag.words : List (String × Tag) := [
  ("null", .null), ("bool", .boolean), ("int", .int), ("float", .float), ("binary", .binary),
  ("timestamp", .timestamp), ("omap", .orderedMapping), ("pairs", .pairs), ("set", .set),
  ("str", .text), ("seq", .list), ("map", .mapping), ("merge", .merge), ("value", .default)]

def Tag.ofName (name : String) : Tag :=
  (Tag.words.find? fun (word, _) => Tag.family ++ word == name).elim .unknown (·.2)

abbrev NodeId := Nat

abbrev NodeEntry := NodeId × NodeId

inductive Content where
  | scalar (text : Text.Wide)
  | sequence (items : List NodeId)
  | mapping (entries : List NodeEntry)
  deriving DecidableEq, Repr

def Content.kind : Content → NodeKind
  | .scalar _ => .scalar
  | .sequence _ => .sequence
  | .mapping _ => .mapping

/-- A node. It has a mark if an anchor or a tag is written in front of it, at the first of them. -/
structure Node where
  mark : Option Mark
  tag : Tag
  content : Content
  deriving DecidableEq, Repr

structure Graph where
  nodes : Array Node
  deriving DecidableEq, Repr

namespace Graph

def empty : Graph := ⟨#[]⟩

def get? (g : Graph) (id : NodeId) : Option Node := g.nodes[id]?

def size (g : Graph) : Nat := g.nodes.size

def add (g : Graph) (n : Node) : Graph := ⟨g.nodes.push n⟩

def modify (g : Graph) (id : NodeId) (f : Node → Node) : Graph := ⟨g.nodes.modify id f⟩

def setContent (g : Graph) (id : NodeId) (c : Content) : Graph :=
  g.modify id fun n => { n with content := c }

def hasTag (g : Graph) (t : Tag) (id : NodeId) : Bool := (g.get? id).any (·.tag == t)

def content? (g : Graph) (id : NodeId) : Option Content := (g.get? id).map Node.content

def entries? (g : Graph) (id : NodeId) : Option (List NodeEntry) :=
  match g.content? id with
  | some (.mapping entries) => some entries
  | _ => none

def entries (g : Graph) : List NodeEntry :=
  g.nodes.toList.flatMap fun n =>
    match n.content with
    | .mapping entries => entries
    | _ => []

end Graph

end SchemaToJava.Yaml
