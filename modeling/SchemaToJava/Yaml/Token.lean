import SchemaToJava.Text.Wide
import SchemaToJava.Yaml.Mark

/-!
The tokens of a YAML stream. Indentation is made explicit: where a block collection starts and ends
there are tokens of their own.
-/

namespace SchemaToJava.Yaml

inductive Directive where
  | version (major : Nat)
  | tag (handle start : String)
  | other
  deriving DecidableEq, Repr

inductive Token where
  | directive (d : Directive)
  | documentStart
  | documentEnd
  | blockSequenceStart
  | blockMappingStart
  | blockEnd
  | flowSequenceStart
  | flowSequenceEnd
  | flowMappingStart
  | flowMappingEnd
  | blockEntry
  | flowEntry
  | key
  | value
  | alias (name : String)
  | anchor (start : Mark) (name : String)
  | tag (start : Mark) (handle : Option String) (suffix : String)
  | scalar (text : Text.Wide) (plain : Bool)
  | streamEnd
  deriving DecidableEq, Repr

end SchemaToJava.Yaml
