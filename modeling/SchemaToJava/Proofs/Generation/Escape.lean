import SchemaToJava.Proofs.Emission.DataClass
import SchemaToJava.Proofs.Emission.Fetcher
import SchemaToJava.Proofs.Generation.Files
import SchemaToJava.Proofs.SchemaFile.Loading

/-!
What ends a generation without a report. The schema directory may have too long a name to be looked
up, a path may hold a null character, and a schema file may hold an integer with too many digits;
everything else that can go wrong is reported.
-/

namespace SchemaToJava.Generation

open Java SchemaFile

def emit (c : Config) (file : Path) (doc : GraphQL.Document) : Run (List Path) := do
  let classes ← Run.traced (Emission.dataClasses c.packageName doc (some file.name))
  let written ← classes.mapM fun d => writeArtifact c.outputDir (.ofClass d)
  let fetcher ← Run.traced (Emission.fetcher c.packageName doc file.name)
  return written ++ [← writeArtifact c.outputDir (.ofInterface fetcher)]

section Steps

variable {c : Config} {t u : FileTree} {taken : List Path} {p : Plan}

end Steps

section Building

variable {base : String} {doc : GraphQL.Document}

end Building

/-- What ends a generation without a report. -/
inductive Escape (c : Config) (t : FileTree) : Fault → Prop where
  | schemaDir {e : FileError} (h : t.find? c.schemaDir = .error e) : Escape c t (.file e)
  | outputDir (h : FileTree.hasNull c.outputDir = true) : Escape c t (.file .nullInPath)
  | schemaFile {files : List Path} {file : Path} (hfiles : schemaFiles c t = .ok files)
    (hfile : file ∈ files) (h : FileTree.hasNull (file.resolved t.home) = true) :
    Escape c t (.file .nullInPath)
  | integer {files : List Path} {file : Path} {doc : GraphQL.Document} {e : Text.IntegerError}
    (hfiles : schemaFiles c t = .ok files) (hfile : file ∈ files)
    (hdoc : document t file = .ok doc)
    (h : ¬ (Emission.ShortFields doc ∧ Emission.ShortArguments doc)) : Escape c t (.integer e)

section Runs

variable {c : Config} {t : FileTree}

end Runs

end SchemaToJava.Generation
