import SchemaToJava.Proofs.Generation.Room
import SchemaToJava.Proofs.SchemaFile.Listing

/-!
Generating once more. After a run there is a file wherever it wrote, and the schema files are what
they were; so the next run takes the same schema files, is refused nowhere, creates no directory and
leaves in each file what is there already.
-/

namespace SchemaToJava.Generation

open Java SchemaFile

/-- Two trees hold the same, in whatever order it is listed. -/
structure SameTree (t u : FileTree) : Prop where
  home : u.home = t.home
  entries : ∀ l, u.get? l = t.get? l

section Runs

variable {c : Config} {t : FileTree} {result : Result} {p : Plan}

end Runs

end SchemaToJava.Generation
