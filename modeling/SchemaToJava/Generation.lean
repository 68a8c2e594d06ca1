import SchemaToJava.Config.Setting
import SchemaToJava.Emission.DataClass
import SchemaToJava.Java.Source
import SchemaToJava.Java.SourcePath
import SchemaToJava.SchemaFile

/-!
Generation: from the schema files of a directory to the Java files of an output directory. Files are
taken one after another, and everything generated from one is written before the next is read.
-/

namespace SchemaToJava.Generation

open Java

structure Result where
  schemaFiles : List Path
  writtenFiles : List Path
  deriving DecidableEq, Repr

def writeArtifact (out : Path) (a : Artifact) : Run Path := do
  let target := a.path out
  let fault := Run.fileFault (.unwritable target)
  Run.makeDirectories target.parent fault
  Run.write target (Text.Utf8.encode a.render) fault
  Run.note (.wrote target)
  return target

def fromFile (c : Config) (file : Path) : Run (List Path) := do
  Run.note (.processing file)
  let doc ← SchemaFile.load file
  let classes ← Run.traced (Emission.dataClasses c.packageName doc (some file.name))
  let written ← classes.mapM fun d => writeArtifact c.outputDir (.ofClass d)
  let fetcher ← Run.traced (Emission.fetcher c.packageName doc file.name)
  return written ++ [← writeArtifact c.outputDir (.ofInterface fetcher)]

/-- The files written so far, each once, with the schema file that each was last generated from. -/
abbrev Ledger := Entries Path Path

def Ledger.record (l : Ledger) (source file : Path) : Run Ledger := do
  if let some previous := l.lookup file then
    if previous != source then Run.note (.overwrites file source previous)
  return l.put file source

def step (c : Config) (l : Ledger) (file : Path) : Run Ledger := do
  (← fromFile c file).foldlM (fun l written => l.record file written) l

/-- Generates from all schema files of a configuration. The first fault ends it. -/
def run (c : Config) : Run Result := do
  let excluded := c.excludeFiles.filterMap Text.Wide.toString?
  let files ← SchemaFile.discover c.schemaDir excluded
  Run.note (.found files.length c.schemaDir)
  let ledger ← files.foldlM (step c) []
  Run.note (.generated ledger.length c.outputDir)
  return ⟨files, ledger.keys⟩

end SchemaToJava.Generation
