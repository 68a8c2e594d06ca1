import SchemaToJava.GraphQL.Document

/-!
Type references that need not be complete: the wrappers may surround a bare name that is no type,
or nothing at all. Every type reference of a document is a shape that is complete.
-/

namespace SchemaToJava.GraphQL

inductive TypeShape where
  | named (name : String)
  | list (item : TypeShape)
  | nonNull (inner : TypeShape)
  | bareName (name : String)
  | nothing
  deriving DecidableEq, Repr

namespace TypeShape

def ofExpr : TypeExpr → TypeShape
  | .named n => .named n
  | .list t => .list (ofExpr t)
  | .nonNull t => .nonNull (ofExpr t)

def base : TypeShape → Except (Option String) String
  | .named n => .ok n
  | .list t => t.base
  | .nonNull t => t.base
  | .bareName n => .error (some n)
  | .nothing => .error none

def isNonNull : TypeShape → Bool
  | .nonNull _ => true
  | _ => false

@[simp] theorem base_ofExpr (t : TypeExpr) : (ofExpr t).base = .ok t.base := by
  induction t with
  | named n => rfl
  | list t ih => exact ih
  | nonNull t ih => exact ih

@[simp] theorem isNonNull_ofExpr (t : TypeExpr) : (ofExpr t).isNonNull = t.isNonNull := by
  cases t <;> rfl

end TypeShape

end SchemaToJava.GraphQL
