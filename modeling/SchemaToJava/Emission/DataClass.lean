import SchemaToJava.Emission.Constraint
import SchemaToJava.Emission.DataType
import SchemaToJava.Emission.JavaType

/-!
Data classes: one for each type gathered from a document, with one private field for each of its
fields. Only the fields of input types carry annotations.
-/

namespace SchemaToJava.Emission

open GraphQL Java

/-- The annotations of every data class; they supply its constructors and accessors. -/
def dataClassAnnotations : List AnnotationUse :=
  [.marker "lombok" "Data", .marker "lombok" "NoArgsConstructor",
    .marker "lombok" "AllArgsConstructor"]

def dataClassField (base : String) (kind : TypeKind) (f : DataField) : Traced FieldDecl := do
  let type ← Traced.silently (javaType base f.type.base)
  let annotations ← match kind with
    | .input => inputAnnotations f.type f.directives
    | .object => pure []
  let name ← Traced.silently (requireIdentifier "field" f.name)
  return ⟨name, type, annotations⟩

def dataClass (base : String) (source : Option String) (d : DataType) : Traced ClassDecl := do
  let fields ← d.fields.mapM (dataClassField base d.kind)
  let name ← Traced.silently (requireIdentifier "class" d.name)
  return ⟨typesPackage base, name, dataClassAnnotations, fields, source⟩

def dataClasses (base : String) (doc : Document) (source : Option String) :
    Traced (List ClassDecl) := do
  let classes ← (← dataTypes doc).mapM (dataClass base source)
  Traced.note (.builtClasses classes.length)
  return classes

end SchemaToJava.Emission
