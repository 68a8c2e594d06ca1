/-!
Schema documents. Types with fields are kept whole; of every other definition only its kind and
name are kept.
-/

namespace SchemaToJava.GraphQL

inductive TypeExpr where
  | named (name : String)
  | list (item : TypeExpr)
  | nonNull (inner : TypeExpr)
  deriving DecidableEq, Repr, Inhabited

def TypeExpr.base : TypeExpr → String
  | .named n => n
  | .list t => t.base
  | .nonNull t => t.base

/-- Only the outermost wrapper makes a reference non-null. -/
def TypeExpr.isNonNull : TypeExpr → Bool
  | .nonNull _ => true
  | .named _ => false
  | .list _ => false

/-- A value as written in a document. Integers and floats keep their digits. -/
inductive Value where
  | variable (name : String)
  | int (text : String)
  | float (text : String)
  | string (text : String)
  | boolean (b : Bool)
  | null
  | enum (name : String)
  | list (items : List Value)
  | object (entries : List (String × Value))
  deriving Repr, Inhabited

structure Directive where
  name : String
  arguments : List (String × Value)
  deriving Repr, Inhabited

structure InputValue where
  description : Option String
  name : String
  type : TypeExpr
  default : Option Value
  directives : List Directive
  deriving Repr, Inhabited

structure Field where
  description : Option String
  name : String
  arguments : List InputValue
  type : TypeExpr
  directives : List Directive
  deriving Repr, Inhabited

structure ObjectType where
  description : Option String
  name : String
  interfaces : List String
  directives : List Directive
  fields : List Field
  deriving Repr, Inhabited

structure InputType where
  description : Option String
  name : String
  directives : List Directive
  fields : List InputValue
  deriving Repr, Inhabited

inductive TypeSystemItem where
  | schema
  | scalar (name : String)
  | object (type : ObjectType)
  | interface (type : ObjectType)
  | union (name : String)
  | enum (name : String)
  | input (type : InputType)
  | directive (name : String)
  deriving Repr, Inhabited

/-- One definition of a document. An extension adds to an item that is defined elsewhere. -/
inductive Definition where
  | operation (name : Option String)
  | fragment (name : String)
  | typeSystem (item : TypeSystemItem)
  | extension (item : TypeSystemItem)
  deriving Repr, Inhabited

structure Document where
  definitions : List Definition
  deriving Repr, Inhabited

def TypeSystemItem.kindWord : TypeSystemItem → String
  | .schema => "schema"
  | .scalar _ => "scalar_type"
  | .object _ => "object_type"
  | .interface _ => "interface_type"
  | .union _ => "union_type"
  | .enum _ => "enum_type"
  | .input _ => "input_object_type"
  | .directive _ => "directive"

def TypeSystemItem.name? : TypeSystemItem → Option String
  | .schema => none
  | .scalar n => some n
  | .object t => some t.name
  | .interface t => some t.name
  | .union n => some n
  | .enum n => some n
  | .input t => some t.name
  | .directive n => some n

def Definition.kindWord : Definition → String
  | .operation _ => "operation_definition"
  | .fragment _ => "fragment_definition"
  | .typeSystem i => i.kindWord ++ "_definition"
  | .extension i => i.kindWord ++ "_extension"

def Definition.name? : Definition → Option String
  | .operation n => n
  | .fragment n => some n
  | .typeSystem i => i.name?
  | .extension i => i.name?

@[simp] theorem TypeExpr.base_list (t : TypeExpr) : (TypeExpr.list t).base = t.base := rfl

@[simp] theorem TypeExpr.base_nonNull (t : TypeExpr) : (TypeExpr.nonNull t).base = t.base := rfl

end SchemaToJava.GraphQL
