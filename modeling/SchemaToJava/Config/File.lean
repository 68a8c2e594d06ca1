import SchemaToJava.Config.Setting
import SchemaToJava.Run
import SchemaToJava.Yaml.Load

/-!
Configuration files. A file holds a mapping of settings, or nothing at all, which does as well.
-/

namespace SchemaToJava.Config

def documentOf (p : Path) (bytes : List UInt8) : Except Fault (Yaml.Document × Bool) :=
  match Yaml.Document.ofBytes? bytes with
  | .ok d =>
    match d.entries?, d.root with
    | some _, _ => .ok (d, true)
    | none, .value .null => .ok (d, false)
    | none, _ => .error (.configFile p .notMapping)
  | .error .malformed => .error (.configFile p .malformed)
  | .error (.mappingExpected found m) => .error (.configFile p (.mappingExpected found m))
  | .error (.scalar e) => .error (.scalar e)
  | .error (.encoding e) => .error (.encoding e)

def load (p : Path) : Run Yaml.Document := do
  let bytes ← Run.orFault (Run.fileFault fun e => .configFile p (.file e))
    (← Run.inspect fun t => t.read p)
  let (d, hasEntries) ← Run.orFault id (documentOf p bytes)
  if hasEntries then Run.note (.loadedConfig p)
  return d

end SchemaToJava.Config
