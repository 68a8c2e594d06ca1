import SchemaToJava.Fault
import SchemaToJava.GraphQL.TypeShape
import SchemaToJava.Java.Name
import SchemaToJava.Java.TypeRef

/-!
Which Java type stands for a GraphQL type. Only the name inside all wrappers matters: lists and
non-null marks leave no trace in the type.
-/

namespace SchemaToJava.Emission

open GraphQL Java

/-- A name that is to become an identifier; `element` says of what. -/
def requireIdentifier (element name : String) : Except Fault String :=
  if isIdentifier name then .ok name else .error (.notIdentifier element name)

def typesPackage (base : String) : String := subpackage base "types"

def fetchersPackage (base : String) : String := subpackage base "fetchers"

def javaString : TypeRef := .inPackage "java.lang" "String"

def builtinScalars : List (String × TypeRef) := [
  ("String", javaString),
  ("ID", javaString),
  ("Int", .primitive "int"),
  ("Float", .primitive "double"),
  ("Boolean", .primitive "boolean")]

def isBuiltinScalar (name : String) : Bool := (builtinScalars.lookup name).isSome

/-- The Java type for a type name. A name that is no builtin scalar means a data class, whether or
not there is one. -/
def javaType (base name : String) : Except Fault TypeRef :=
  match builtinScalars.lookup name with
  | some t => .ok t
  | none => do return .inPackage (typesPackage base) (← requireIdentifier "type" name)

structure ResolvedType where
  name : String
  isNonNull : Bool
  deriving DecidableEq, Repr

def resolve (shape : TypeShape) : Except Fault ResolvedType :=
  match shape.base with
  | .ok name => .ok ⟨name, shape.isNonNull⟩
  | .error bare => .error (.unknownType bare)

@[simp] theorem resolve_ofExpr (t : TypeExpr) :
    resolve (.ofExpr t) = .ok ⟨t.base, t.isNonNull⟩ := by simp [resolve]

theorem requireIdentifier_eq_ok_iff {element name out : String} :
    requireIdentifier element name = .ok out ↔ isIdentifier name = true ∧ out = name := by
  unfold requireIdentifier
  split <;> rename_i h <;> simp [h, eq_comm]

end SchemaToJava.Emission
