import SchemaToJava.GraphQL.Document
import SchemaToJava.Traced

/-!
The types of a document that become classes, each with the fields of its definition and of the
extensions in the same document. Definitions are gathered before extensions, so their order in the
document does not matter.
-/

namespace SchemaToJava.Emission

open GraphQL

structure DataField where
  name : String
  type : TypeExpr
  directives : List Directive
  deriving Repr

structure DataType where
  name : String
  kind : TypeKind
  fields : List DataField
  deriving Repr

def isRootName (name : String) : Bool := name == "Query" || name == "Mutation"

/-- What an item contributes to classes: a name, a kind and fields. Types of operations contribute
nothing, and neither does anything but object and input types. -/
def contribution? : TypeSystemItem → Option DataType
  | .object t =>
    if isRootName t.name then none
    else some ⟨t.name, .object, t.fields.map fun f => ⟨f.name, f.type, f.directives⟩⟩
  | .input t =>
    if isRootName t.name then none
    else some ⟨t.name, .input, t.fields.map fun f => ⟨f.name, f.type, f.directives⟩⟩
  | _ => none

namespace DataType

def hasField (d : DataType) (name : String) : Bool := d.fields.any (·.name == name)

/-- Adds fields up to the first whose name is taken, and tells that name. -/
def add (d : DataType) : List DataField → DataType × Option String
  | [] => (d, none)
  | f :: rest =>
    if d.hasField f.name then (d, some f.name) else { d with fields := d.fields ++ [f] }.add rest

def addAll (d : DataType) (fields : List DataField) : Except Fault DataType :=
  match d.add fields with
  | (d, none) => .ok d
  | (_, some name) => .error (.duplicateField d.name name)

end DataType

abbrev Collection := List DataType

namespace Collection

def find? (c : Collection) (name : String) : Option DataType := List.find? (·.name == name) c

def replace (c : Collection) (d : DataType) : Collection :=
  c.map fun e => if e.name == d.name then d else e

def define (c : Collection) (d : DataType) : Except Fault Collection :=
  match c.find? d.name with
  | none => do return c ++ [← (⟨d.name, d.kind, []⟩ : DataType).addAll d.fields]
  | some there =>
    if there.kind = d.kind then do return c.replace (← there.addAll d.fields)
    else .error (.conflictingKinds d.name there.kind d.kind)

/-- Takes in an extension; one of a type that is defined elsewhere is passed over. -/
def extend (c : Collection) (d : DataType) : Traced Collection :=
  match c.find? d.name with
  | none => skip
  | some there =>
    if there.kind = d.kind then do return c.replace (← Traced.silently (there.addAll d.fields))
    else skip
where
  skip : Traced Collection := do
    Traced.note (.skippingExtension d.name)
    return c

end Collection

def definedTypes (doc : Document) : List DataType :=
  doc.definitions.filterMap fun
    | .typeSystem item => contribution? item
    | _ => none

def extendedTypes (doc : Document) : List DataType :=
  doc.definitions.filterMap fun
    | .extension item => contribution? item
    | _ => none

def dataTypes (doc : Document) : Traced Collection := do
  let defined ← Traced.silently ((definedTypes doc).foldlM Collection.define [])
  (extendedTypes doc).foldlM Collection.extend defined

end SchemaToJava.Emission
