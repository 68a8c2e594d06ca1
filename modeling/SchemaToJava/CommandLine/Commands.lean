import SchemaToJava.Bootstrap
import SchemaToJava.Config.Arguments
import SchemaToJava.Config.File
import SchemaToJava.Generation

/-!
What the commands do once their options are known: generate Java files, and create the base schema
file. A fault that is reported becomes an event and an exit code; others are left as they are.
-/

namespace SchemaToJava.CommandLine

def labelled (label text : String) : String := s!"[dim]{label}:[/dim] {text}"

def success (text : String) : String := s!"[green]✓[/green] {text}"

def hint (text : String) : String := s!"[dim]{text}[/dim]"

def opening (c : Config) : List String :=
  [labelled "Schema directory" c.schemaDir.text, labelled "Output directory" c.outputDir.text,
    labelled "Package" c.packageName]

def summary (r : Generation.Result) : List String :=
  let written := r.writtenFiles.length
  let taken := r.schemaFiles.length
  r.writtenFiles.map (s!"- {·.text}") ++
    [success s!"Generated {written} Java files from {taken} schema files"]

def bootstrapped (created : Bool) (file : String) : String :=
  if created then success s!"Created {file}" else hint s!"{file} already exists, left unchanged"

def runGeneration (console : Console) (c : Config) : Run Unit := do
  Run.put (.rule "[bold blue]DGS code generation")
  Run.printAll console (opening c)
  let result ← Generation.run c
  Run.printAll console (summary result)

/-- Runs something for its exit code: 0, or 1 with an event if a fault is reported. -/
def exitCode (x : Run Unit) : Run Nat :=
  Run.recover (do x; return 0) fun f => do
    if f.isReported then
      Run.note (.failed f)
      return 1
    else Run.fail f

def generateFromArguments (console : Console) (arguments : List String) : Run Nat :=
  exitCode do
    let settings := Config.Settings.ofTexts (Config.ofArguments arguments)
    runGeneration console (← Run.traced (Config.build settings))

structure GenerateOptions where
  schemaDir : Option Path
  outputDir : Option Path
  packageName : Option String
  excludeFiles : Option String
  configFile : Option Path
  deriving DecidableEq, Repr

def GenerateOptions.settings (o : GenerateOptions) : Config.Settings :=
  (o.schemaDir.map fun p => ("schemaDir", Config.Setting.path p)).toList ++
    (o.outputDir.map fun p => ("outputDir", Config.Setting.path p)).toList ++
    (o.packageName.map fun s => ("packageName", Config.Setting.ofText s)).toList ++
    (o.excludeFiles.map fun s => ("excludeFiles", Config.Setting.ofText s)).toList

def GenerateOptions.over (o : GenerateOptions) (fromFile : Config.Settings) : Config.Settings :=
  fromFile.putAll o.settings

def generate (console : Console) (o : GenerateOptions) : Run Nat :=
  exitCode do
    let fromFile ← match o.configFile with
      | some p => Config.Settings.ofDocument <$> Config.load p
      | none => pure []
    runGeneration console (← Run.traced (Config.build (o.over fromFile)))

def init (console : Console) (directory : Path) : Run Nat :=
  exitCode do
    let created ← Bootstrap.create directory
    Run.print console (bootstrapped created (Bootstrap.file directory).text)

end SchemaToJava.CommandLine
