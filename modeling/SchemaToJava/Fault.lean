import SchemaToJava.Config.Problem
import SchemaToJava.FileError
import SchemaToJava.GraphQL.Excerpt
import SchemaToJava.Yaml.Error

/-!
Everything that can end a run, by its cause. Most faults are reported in one line; the others are
ones nobody is expected to meet, and end the program as they are.
-/

namespace SchemaToJava

inductive TypeKind where
  | object
  | input
  deriving DecidableEq, Repr

def TypeKind.text : TypeKind → String
  | .object => "object"
  | .input => "input"

inductive ReadFailure where
  | file (e : FileError)
  | encoding (e : Text.Utf8.DecodeError)
  deriving DecidableEq, Repr

inductive ConfigFileFailure where
  | file (e : FileError)
  | malformed
  | mappingExpected (found : Yaml.NodeKind) (mark : Yaml.Mark)
  | notMapping
  deriving DecidableEq, Repr

inductive Fault where
  | schemaDirectoryMissing (path : Path)
  | schemaPathNotDirectory (path : Path)
  | configuration (problems : List Config.Problem)
  | configFile (path : Path) (why : ConfigFileFailure)
  | invalidSchema (path : Path) (loadedFrom : String) (text : List Char) (e : GraphQL.SyntaxError)
  | unreadableSchema (path : Path) (why : ReadFailure)
  | unwritable (path : Path) (e : FileError)
  | unknownType (bareName : Option String)
  | duplicateField (type field : String)
  | conflictingKinds (type : String) (first second : TypeKind)
  | notIdentifier (element name : String)
  | document (e : GraphQL.SyntaxError)
  | encoding (e : Text.Utf8.DecodeError)
  | file (e : FileError)
  | integer (e : Text.IntegerError)
  | scalar (e : Yaml.ScalarError)
  | halves (h : Text.Wide.Halves)
  | noVariable (name : String)
  | console (message : String)
  deriving DecidableEq, Repr

def ReadFailure.message : ReadFailure → String
  | .file e => e.message
  | .encoding e => e.message

def ConfigFileFailure.message (path : Path) : ConfigFileFailure → String
  | .file e => e.message
  | .malformed => "<yaml error>"
  | .mappingExpected found m =>
    s!"expected a mapping node, but found {found.text}\n{m.text path.text}"
  | .notMapping => "expected a mapping"

namespace Fault

def message : Fault → String
  | .schemaDirectoryMissing p => s!"Schema directory does not exist: {p.text}"
  | .schemaPathNotDirectory p => s!"Schema directory is not a directory: {p.text}"
  | .configuration ps => "; ".intercalate (ps.map (·.message))
  | .configFile p why => s!"Invalid configuration file '{p.text}': {why.message p}"
  | .invalidSchema p source text e =>
    s!"Invalid GraphQL SDL in '{p.text}': Could not load {source}:\n{e.located text}"
  | .unreadableSchema p why => s!"Failed to read schema file '{p.text}': {why.message}"
  | .unwritable p e => s!"Failed to write generated file '{p.text}': {e.message}"
  | .unknownType none => "Unknown type: None"
  | .unknownType (some n) => s!"Unknown type: NameNode({Text.quoted n})"
  | .duplicateField t f => s!"Duplicate field: '{t}.{f}'"
  | .conflictingKinds t a b =>
    s!"Conflicting type definitions: '{t}' is defined as {a.text} and {b.text}"
  | .notIdentifier element n => s!"Not a valid Java identifier for {element}: '{n}'"
  | .document e => e.message
  | .encoding e => e.message
  | .file e => e.message
  | .integer e => e.message
  | .scalar e => e.message
  | .halves h => h.message
  | .noVariable name => Text.quoted name
  | .console message => message

/-- Whether a fault is reported in one line instead of ending the program as it is. -/
def isReported : Fault → Bool
  | .document _ => false
  | .encoding _ => false
  | .file _ => false
  | .integer _ => false
  | .scalar _ => false
  | .halves _ => false
  | .noVariable _ => false
  | .console _ => false
  | _ => true

end Fault

end SchemaToJava
