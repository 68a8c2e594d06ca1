import SchemaToJava.GraphQL.Document
import SchemaToJava.Java.Declaration
import SchemaToJava.Java.Literal
import SchemaToJava.Traced

/-!
Validation directives and the annotations they become. A directive of the catalogue becomes the
annotation of the same name; its text, integer and boolean arguments become members, in order.
-/

namespace SchemaToJava.Emission

open GraphQL Java

def validationPackage : String := "jakarta.validation.constraints"

def notNull : AnnotationUse := .marker validationPackage "NotNull"

def catalogue : List String := [
  "AssertFalse", "AssertTrue", "DecimalMax", "DecimalMin", "Digits", "Email", "Future",
  "FutureOrPresent", "Max", "Min", "Negative", "NegativeOrZero", "NotBlank", "NotEmpty", "Null",
  "Past", "PastOrPresent", "Pattern", "Positive", "PositiveOrZero", "Size"]

/-- The literal for a value. Only texts, integers and booleans have one. -/
def literal? : Value → Except Fault (Option Literal)
  | .string s => .ok (some (.string s))
  | .int digits =>
    match Text.readInteger 10 (.ofString digits) with
    | .ok n => .ok (some (.int n))
    | .error e => .error (.integer e)
  | .boolean b => .ok (some (.boolean b))
  | _ => .ok none

def literalArguments : List (String × Value) → Except Fault (List (String × Literal))
  | [] => .ok []
  | (name, v) :: rest => do
    match ← literal? v with
    | some l => return (name, l) :: (← literalArguments rest)
    | none => literalArguments rest

def constraint (d : Directive) : Except Fault AnnotationUse := do
  let arguments ← literalArguments d.arguments
  return ⟨.inPackage validationPackage d.name, arguments.map fun (n, l) => ⟨n, l.text⟩⟩

/-- The annotations for some directives. Those outside the catalogue are passed over. -/
def constraints : List Directive → Traced (List AnnotationUse)
  | [] => return []
  | d :: rest => do
    if catalogue.contains d.name then
      let a ← Traced.silently (constraint d)
      return a :: (← constraints rest)
    else
      Traced.note (.ignoringDirective d.name)
      constraints rest

def inputAnnotations (type : TypeExpr) (directives : List Directive) :
    Traced (List AnnotationUse) := do
  let as ← constraints directives
  return if type.isNonNull then notNull :: as else as

end SchemaToJava.Emission
