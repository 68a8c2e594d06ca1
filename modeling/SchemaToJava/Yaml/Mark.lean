/-!
Places in a stream, and what is found there.
-/

namespace SchemaToJava.Yaml

structure Mark where
  line : Nat
  column : Nat
  deriving DecidableEq, Repr

def Mark.text (m : Mark) (file : String) : String :=
  s!"  in \"{file}\", line {m.line + 1}, column {m.column + 1}"

inductive NodeKind where
  | scalar
  | sequence
  | mapping
  deriving DecidableEq, Repr

def NodeKind.text : NodeKind → String
  | .scalar => "scalar"
  | .sequence => "sequence"
  | .mapping => "mapping"

end SchemaToJava.Yaml
