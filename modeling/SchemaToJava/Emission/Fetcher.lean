import SchemaToJava.Emission.Constraint
import SchemaToJava.Emission.DataType
import SchemaToJava.Emission.JavaType
import SchemaToJava.Text.UpperCase

/-!
Fetcher interfaces: one for each schema file, with one method for each operation. Operations are the
fields of the query and mutation types and of their extensions, in document order.
-/

namespace SchemaToJava.Emission

open GraphQL Java

inductive Root where
  | query
  | mutation
  deriving DecidableEq, Repr

def Root.name : Root → String
  | .query => "Query"
  | .mutation => "Mutation"

def Root.ofName? (name : String) : Option Root :=
  if name = "Query" then some .query else if name = "Mutation" then some .mutation else none

/-- One block of operations: a root type as it is defined or extended at one place. -/
structure RootBlock where
  root : Root
  isExtension : Bool
  fields : List Field
  deriving Repr

def rootBlock? (isExtension : Bool) : TypeSystemItem → Option RootBlock
  | .object t => (Root.ofName? t.name).map fun r => ⟨r, isExtension, t.fields⟩
  | _ => none

def rootBlocks (doc : Document) : List RootBlock :=
  doc.definitions.filterMap fun
    | .typeSystem item => rootBlock? false item
    | .extension item => rootBlock? true item
    | _ => none

structure Operation where
  root : Root
  field : Field
  deriving Repr

def operations (doc : Document) : List Operation :=
  (rootBlocks doc).flatMap fun b => b.fields.map fun f => ⟨b.root, f⟩

def dgsPackage : String := "com.netflix.graphql.dgs"

def Root.marker : Root → AnnotationUse
  | .query => .marker dgsPackage "DgsQuery"
  | .mutation => .marker dgsPackage "DgsMutation"

def component : AnnotationUse := .marker dgsPackage "DgsComponent"

def inputArgument : AnnotationUse := .marker dgsPackage "InputArgument"

/-- The last parameter of every method. -/
def environmentParameter : Parameter :=
  ⟨"dfe", .inPackage "graphql.schema" "DataFetchingEnvironment", []⟩

def parameter (base : String) (a : InputValue) : Traced Parameter := do
  let type ← Traced.silently (javaType base a.type.base)
  let annotations ← inputAnnotations a.type a.directives
  let name ← Traced.silently (requireIdentifier "parameter" a.name)
  return ⟨name, type, annotations ++ [inputArgument]⟩

def method (base : String) (o : Operation) : Traced MethodDecl := do
  let parameters ← o.field.arguments.mapM (parameter base)
  let returnType ← Traced.silently (javaType base o.field.type.base)
  let name ← Traced.silently (requireIdentifier "method" o.field.name)
  return ⟨name, returnType, [o.root.marker], parameters ++ [environmentParameter]⟩

def methods (base : String) : (seen : List (Root × String)) → List Operation →
    Traced (List MethodDecl)
  | _, [] => return []
  | seen, o :: rest => do
    if seen.contains (o.root, o.field.name) then
      Traced.fail (.duplicateField o.root.name o.field.name)
    else
      let m ← method base o
      return m :: (← methods base ((o.root, o.field.name) :: seen) rest)

def schemaFileEnding : String := ".graphqls"

def withoutEnding (ending s : String) : String :=
  if ending.toList.isSuffixOf s.toList then
    String.ofList (s.toList.take (s.toList.length - ending.toList.length))
  else s

def fetcherName (fileName : String) : String :=
  Text.capitalize (withoutEnding schemaFileEnding fileName) ++ "Fetcher"

def fetcher (base : String) (doc : Document) (fileName : String) : Traced InterfaceDecl := do
  let ms ← methods base [] (operations doc)
  let name ← Traced.silently (requireIdentifier "class" (fetcherName fileName))
  Traced.note (.builtFetcher name ms.length)
  return ⟨fetchersPackage base, name, [component], ms, some fileName⟩

example : fetcherName "user.graphqls" = "UserFetcher" := by decide

end SchemaToJava.Emission
