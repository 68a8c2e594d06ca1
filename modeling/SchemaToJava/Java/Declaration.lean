import SchemaToJava.Java.TypeRef

/-!
The Java declarations that are generated: data classes and interfaces, with what stands in them.
Nothing here says how a type is spelled; that is decided for each source file as a whole.
-/

namespace SchemaToJava.Java

/-- One value given in an annotation, written as a literal already. -/
structure Member where
  name : String
  value : String
  deriving DecidableEq, Repr

structure AnnotationUse where
  type : TypeRef
  members : List Member
  deriving DecidableEq, Repr

structure FieldDecl where
  name : String
  type : TypeRef
  annotations : List AnnotationUse
  deriving DecidableEq, Repr

structure Parameter where
  name : String
  type : TypeRef
  annotations : List AnnotationUse
  deriving DecidableEq, Repr

structure MethodDecl where
  name : String
  returnType : TypeRef
  annotations : List AnnotationUse
  parameters : List Parameter
  deriving DecidableEq, Repr

/-- A data class; `source` is the schema file it was generated from. -/
structure ClassDecl where
  package : String
  name : String
  annotations : List AnnotationUse
  fields : List FieldDecl
  source : Option String
  deriving DecidableEq, Repr

structure InterfaceDecl where
  package : String
  name : String
  annotations : List AnnotationUse
  methods : List MethodDecl
  source : Option String
  deriving DecidableEq, Repr

inductive Artifact where
  | ofClass (c : ClassDecl)
  | ofInterface (i : InterfaceDecl)
  deriving DecidableEq, Repr

def AnnotationUse.marker (package name : String) : AnnotationUse := ⟨.inPackage package name, []⟩

namespace Artifact

def package : Artifact → String
  | ofClass c => c.package
  | ofInterface i => i.package

def name : Artifact → String
  | ofClass c => c.name
  | ofInterface i => i.name

def typeRef (a : Artifact) : TypeRef := .inPackage a.package a.name

end Artifact

def FieldDecl.references (f : FieldDecl) : List TypeRef := f.annotations.map (·.type) ++ [f.type]

def Parameter.references (p : Parameter) : List TypeRef := p.annotations.map (·.type) ++ [p.type]

def MethodDecl.references (m : MethodDecl) : List TypeRef :=
  m.annotations.map (·.type) ++ m.returnType :: m.parameters.flatMap (·.references)

def Artifact.references : Artifact → List TypeRef
  | ofClass c => c.annotations.map (·.type) ++ c.fields.flatMap (·.references)
  | ofInterface i => i.annotations.map (·.type) ++ i.methods.flatMap (·.references)

end SchemaToJava.Java
