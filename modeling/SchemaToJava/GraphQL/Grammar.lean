import SchemaToJava.GraphQL.Cursor
import SchemaToJava.GraphQL.Document

/-!
The grammar of documents. Values, list types and selection sets nest in each other; each such rule
takes the number of levels that may still be opened, which is also what it recurses on. The rules
of one definition never go back.
-/

namespace SchemaToJava.GraphQL.Grammar

open Rule

def maxNesting : Nat := 200

def tooDeep {α : Type} : Rule α := do fail .nestedTooDeeply (← current).position

def orNonNull (t : TypeExpr) : Rule TypeExpr := do
  return if ← skip? (.punct .bang) then .nonNull t else t

def typeExpr : (room : Nat) → Rule TypeExpr
  | 0 => do
    if ← skip? (.punct .bracketL) then tooDeep
    orNonNull (.named (← name))
  | room + 1 => do
    if ← skip? (.punct .bracketL) then
      let item ← typeExpr room
      punct .bracketR
      orNonNull (.list item)
    else orNonNull (.named (← name))

def variableName : Rule String := do
  punct .dollar
  name

/-- A value that contains no other. Constants admit no variables. -/
def flatValue (constant : Bool) : Rule Value := do
  let t ← current
  match t.lexeme with
  | .int s => advance; return .int s
  | .float s => advance; return .float s
  | .string s => advance; return .string s
  | .blockString s => advance; return .string s
  | .name "true" => advance; return .boolean true
  | .name "false" => advance; return .boolean false
  | .name "null" => advance; return .null
  | .name s => advance; return .enum s
  | .punct .dollar =>
    if constant then
      advance
      match (← current).lexeme with
      | .name s => fail (.variableInConstant s) t.position
      | _ => unexpected t
    else return .variable (← variableName)
  | _ => unexpected t

def value (constant : Bool) : (room : Nat) → Rule Value
  | 0 => do
    if (← peek (.punct .bracketL)) || (← peek (.punct .braceL)) then tooDeep
    flatValue constant
  | room + 1 => do
    if ← peek (.punct .bracketL) then
      return .list (← surrounded .bracketL .bracketR (value constant room))
    else if ← peek (.punct .braceL) then
      return .object (← surrounded .braceL .braceR do
        let key ← name
        punct .colon
        return (key, ← value constant room))
    else flatValue constant

def arguments (constant : Bool) (room : Nat) : Rule (List (String × Value)) :=
  optionalGroup .parenL .parenR do
    let key ← name
    punct .colon
    return (key, ← value constant room)

def directives (constant : Bool) (room : Nat) : Rule (List Directive) :=
  startingWith .at do
    punct .at
    return ⟨← name, ← arguments constant room⟩

def constDirectives : Rule (List Directive) := directives true maxNesting

/-- A fragment's name; the word `on` is none, even as a string. -/
def fragmentName : Rule String := do
  if (← current).lexeme.value? == some "on" then unexpectedHere
  name

/-- One selection: a field, a fragment spread or an inline fragment. `nested` reads the selections
inside it. -/
def selection (room : Nat) (nested : Rule Unit) : Rule Unit := do
  if ← skip? (.punct .spread) then
    if ← skip? (.name "on") then
      let _ ← name
      let _ ← directives false room
      nested
    else
      match (← current).lexeme with
      | .name _ =>
        let _ ← fragmentName
        let _ ← directives false room
      | _ =>
        let _ ← directives false room
        nested
  else
    let _ ← name
    if ← skip? (.punct .colon) then
      let _ ← name
    let _ ← arguments false room
    let _ ← directives false room
    if ← peek (.punct .braceL) then nested

def selectionSet : (room : Nat) → Rule Unit
  | 0 => tooDeep
  | room + 1 => do
    let _ ← surrounded .braceL .braceR (selection room (selectionSet room))

def description : Rule (Option String) := do
  match (← current).lexeme with
  | .string s => advance; return some s
  | .blockString s => advance; return some s
  | _ => return none

def defaultValue : Rule (Option Value) := do
  if ← skip? (.punct .equals) then return some (← value true maxNesting) else return none

def variableDefinition : Rule Unit := do
  let _ ← description
  let _ ← variableName
  punct .colon
  let _ ← typeExpr maxNesting
  let _ ← defaultValue
  let _ ← constDirectives

def operationKind : Rule String := do
  let t ← current
  let word ← name
  if word == "query" || word == "mutation" || word == "subscription" then return word
  else unexpected t

def executableBody : Rule Unit := do
  let _ ← directives false maxNesting
  selectionSet maxNesting

def operation : Rule Definition := do
  let _ ← description
  let _ ← operationKind
  let called ← match (← current).lexeme with
    | .name _ => some <$> name
    | _ => pure none
  let _ ← optionalGroup .parenL .parenR variableDefinition
  executableBody
  return .operation called

def fragment : Rule Definition := do
  let _ ← description
  keyword "fragment"
  let called ← fragmentName
  keyword "on"
  let _ ← name
  executableBody
  return .fragment called

def inputValue : Rule InputValue := do
  let about ← description
  let called ← name
  punct .colon
  let type ← typeExpr maxNesting
  let initial ← defaultValue
  return ⟨about, called, type, initial, ← constDirectives⟩

def field : Rule Field := do
  let about ← description
  let called ← name
  let args ← optionalGroup .parenL .parenR inputValue
  punct .colon
  let type ← typeExpr maxNesting
  return ⟨about, called, args, type, ← constDirectives⟩

def implemented : Rule (List String) := do
  if ← skip? (.name "implements") then separated .amp name else return []

def unionMembers : Rule (List String) := do
  if ← skip? (.punct .equals) then separated .pipe name else return []

def rootType : Rule Unit := do
  let _ ← operationKind
  punct .colon
  let _ ← name

def isReservedEnumValue (word : Option String) : Bool :=
  word == some "true" || word == some "false" || word == some "null"

def enumValue : Rule Unit := do
  let _ ← description
  let t ← current
  if isReservedEnumValue t.lexeme.value? then fail (.reservedEnumValue t.lexeme) t.position
  let _ ← name
  let _ ← constDirectives

def directiveLocations : List String := [
  "QUERY", "MUTATION", "SUBSCRIPTION", "FIELD", "FRAGMENT_DEFINITION", "FRAGMENT_SPREAD",
  "INLINE_FRAGMENT", "VARIABLE_DEFINITION", "FRAGMENT_VARIABLE_DEFINITION", "SCHEMA", "SCALAR",
  "OBJECT", "FIELD_DEFINITION", "ARGUMENT_DEFINITION", "INTERFACE", "UNION", "ENUM", "ENUM_VALUE",
  "INPUT_OBJECT", "INPUT_FIELD_DEFINITION", "DIRECTIVE_DEFINITION"]

def directiveLocation : Rule Unit := do
  let t ← current
  let word ← name
  unless directiveLocations.contains word do unexpected t

def required (adds : Bool) : Rule Unit := do
  unless adds do unexpectedHere

def schemaDefinition : Rule TypeSystemItem := do
  let _ ← description
  keyword "schema"
  let _ ← constDirectives
  let _ ← group .braceL .braceR rootType
  return .schema

def schemaExtension : Rule TypeSystemItem := do
  keyword "schema"
  let ds ← constDirectives
  let roots ← optionalGroup .braceL .braceR rootType
  required (!ds.isEmpty || !roots.isEmpty)
  return .schema

def scalarDefinition : Rule TypeSystemItem := do
  let _ ← description
  keyword "scalar"
  let called ← name
  let _ ← constDirectives
  return .scalar called

def scalarExtension : Rule TypeSystemItem := do
  keyword "scalar"
  let called ← name
  let ds ← constDirectives
  required (!ds.isEmpty)
  return .scalar called

def objectBody (about : Option String) : Rule ObjectType := do
  let called ← name
  let interfaces ← implemented
  let ds ← constDirectives
  return ⟨about, called, interfaces, ds, ← optionalGroup .braceL .braceR field⟩

def objectAddition : Rule ObjectType := do
  let t ← objectBody none
  required (!t.interfaces.isEmpty || !t.directives.isEmpty || !t.fields.isEmpty)
  return t

def objectDefinition : Rule TypeSystemItem := do
  let about ← description
  keyword "type"
  return .object (← objectBody about)

def objectExtension : Rule TypeSystemItem := do
  keyword "type"
  return .object (← objectAddition)

def interfaceDefinition : Rule TypeSystemItem := do
  let about ← description
  keyword "interface"
  return .interface (← objectBody about)

def interfaceExtension : Rule TypeSystemItem := do
  keyword "interface"
  return .interface (← objectAddition)

def unionDefinition : Rule TypeSystemItem := do
  let _ ← description
  keyword "union"
  let called ← name
  let _ ← constDirectives
  let _ ← unionMembers
  return .union called

def unionExtension : Rule TypeSystemItem := do
  keyword "union"
  let called ← name
  let ds ← constDirectives
  let members ← unionMembers
  required (!ds.isEmpty || !members.isEmpty)
  return .union called

def enumDefinition : Rule TypeSystemItem := do
  let _ ← description
  keyword "enum"
  let called ← name
  let _ ← constDirectives
  let _ ← optionalGroup .braceL .braceR enumValue
  return .enum called

def enumExtension : Rule TypeSystemItem := do
  keyword "enum"
  let called ← name
  let ds ← constDirectives
  let values ← optionalGroup .braceL .braceR enumValue
  required (!ds.isEmpty || !values.isEmpty)
  return .enum called

def inputBody (about : Option String) : Rule InputType := do
  let called ← name
  let ds ← constDirectives
  return ⟨about, called, ds, ← optionalGroup .braceL .braceR inputValue⟩

def inputDefinition : Rule TypeSystemItem := do
  let about ← description
  keyword "input"
  return .input (← inputBody about)

def inputExtension : Rule TypeSystemItem := do
  keyword "input"
  let t ← inputBody none
  required (!t.directives.isEmpty || !t.fields.isEmpty)
  return .input t

def directiveDefinition : Rule TypeSystemItem := do
  let _ ← description
  keyword "directive"
  punct .at
  let called ← name
  let _ ← optionalGroup .parenL .parenR inputValue
  let _ ← constDirectives
  let _ ← skip? (.name "repeatable")
  keyword "on"
  let _ ← separated .pipe directiveLocation
  return .directive called

def directiveExtension : Rule TypeSystemItem := do
  keyword "directive"
  punct .at
  let called ← name
  let ds ← constDirectives
  required (!ds.isEmpty)
  return .directive called

def typeSystemDefinition? (word : String) : Option (Rule TypeSystemItem) :=
  if word = "schema" then some schemaDefinition
  else if word = "scalar" then some scalarDefinition
  else if word = "type" then some objectDefinition
  else if word = "interface" then some interfaceDefinition
  else if word = "union" then some unionDefinition
  else if word = "enum" then some enumDefinition
  else if word = "input" then some inputDefinition
  else if word = "directive" then some directiveDefinition
  else none

def extension? (word : String) : Option (Rule TypeSystemItem) :=
  if word = "schema" then some schemaExtension
  else if word = "scalar" then some scalarExtension
  else if word = "type" then some objectExtension
  else if word = "interface" then some interfaceExtension
  else if word = "union" then some unionExtension
  else if word = "enum" then some enumExtension
  else if word = "input" then some inputExtension
  else if word = "directive" then some directiveExtension
  else none

def describable? (word : String) : Option (Rule Definition) :=
  match typeSystemDefinition? word with
  | some item => some (.typeSystem <$> item)
  | none =>
    if word = "query" || word = "mutation" || word = "subscription" then some operation
    else if word = "fragment" then some fragment
    else none

/-- An extension. The word that says of what is looked at before `extend` is consumed. -/
def extension : Rule Definition := do
  let t ← lookahead
  match t.lexeme with
  | .name word =>
    match extension? word with
    | some item =>
      advance
      return .extension (← item)
    | none => unexpected t
  | _ => unexpected t

def undescribed : Rule Definition := do
  let t ← current
  match t.lexeme with
  | .name word =>
    match describable? word with
    | some rule => rule
    | none => if word = "extend" then extension else unexpected t
  | _ => unexpected t

def described : Rule Definition := do
  let place := (← current).position
  let t ← lookahead
  match t.lexeme with
  | .punct .braceL => fail .describedShorthand place
  | .name word =>
    match describable? word with
    | some rule => rule
    | none => fail .describedNonDefinition place
  | _ => unexpected t

def definition : Rule Definition := do
  match (← current).lexeme with
  | .punct .braceL =>
    selectionSet maxNesting
    return .operation none
  | .string _ => described
  | .blockString _ => described
  | _ => undescribed

def document : Rule Document := return ⟨← someUntil .eof definition⟩

end SchemaToJava.GraphQL.Grammar

namespace SchemaToJava.GraphQL

def Document.parse (text : List Char) : Except SyntaxError Document := do
  let c ← Cursor.ofStream (.ofChars text)
  return (← Grammar.document c).1

def TypeExpr.parse (text : List Char) : Except SyntaxError TypeExpr :=
  (Grammar.typeExpr Grammar.maxNesting).run text

def Value.parse (text : List Char) : Except SyntaxError Value :=
  (Grammar.value false Grammar.maxNesting).run text

end SchemaToJava.GraphQL
