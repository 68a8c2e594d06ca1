/-!
References to Java types.
-/

namespace SchemaToJava.Java

structure TypeRef where
  simpleName : String
  package : Option String
  deriving DecidableEq, Repr

namespace TypeRef

def isPrimitive (t : TypeRef) : Bool := t.package.isNone

def canonicalName (t : TypeRef) : String :=
  match t.package with
  | none => t.simpleName
  | some p => p ++ "." ++ t.simpleName

def primitive (name : String) : TypeRef := ⟨name, none⟩

def inPackage (package name : String) : TypeRef := ⟨name, some package⟩

@[simp] theorem isPrimitive_inPackage (p n : String) : (inPackage p n).isPrimitive = false := rfl

@[simp] theorem canonicalName_inPackage (p n : String) :
    (inPackage p n).canonicalName = p ++ "." ++ n := rfl

end TypeRef

end SchemaToJava.Java
