import SchemaToJava.Config.Setting
import SchemaToJava.Run

/-!
The base schema file, which declares the root types for other files to extend. It is written once
and never touched again.
-/

namespace SchemaToJava.Bootstrap

def content : String := "type Query \x7b\x7d\n\ntype Mutation \x7b\x7d\n"

def file (directory : Path) : Path := directory.child Config.bootstrapFile

/-- Makes sure that a directory has a base schema file; answers whether it was created. -/
def create (directory : Path) : Run Bool := do
  let target := file directory
  match ← Run.orFault .file (← Run.inspect fun t => t.find? target) with
  | some _ =>
    Run.note (.bootstrapThere target)
    return false
  | none =>
    let fault := Run.fileFault (.unwritable target)
    Run.makeDirectories directory fault
    Run.write target (Text.Utf8.encode content) fault
    Run.note (.bootstrapCreated target)
    return true

end SchemaToJava.Bootstrap
