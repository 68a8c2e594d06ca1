import SchemaToJava.CommandLine.Console
import SchemaToJava.CommandLine.TimeStamp

/-!
The program in the world: it reads what the arguments may be about, runs, carries out the changes
the run made, and shows its output. What is done and said is decided by the run alone.
-/

namespace SchemaToJava.CommandLine

def namesIn (argument : String) : List String :=
  let cs := argument.toList
  let parts := [(cs.dropWhile (· != '=')).drop 1, cs.drop 2]
  argument :: (parts.map String.ofList).filter (· != "")

def variableNames : List String :=
  (none :: Command.all.map some).flatMap (fun c => (optionsOf c).map (variableName (stemOf c))) ++
    [Completion.requestVariable, Completion.lineVariable, Completion.wordVariable]

def textsInConfig (t : FileTree) (name : String) : List String :=
  match ((Config.load (.ofText name)).on t).outcome with
  | .error _ => []
  | .ok d => (d.entries?.getD []).filterMap fun
      | (_, .value (.text t)) => Text.Wide.toString? t
      | _ => none

def locationText (l : Location) : String := "/" ++ "/".intercalate l

/-- What stands at a location. The content is read only if asked for; without it a file is taken to
be empty. -/
def readEntry (l : Location) (withContent : Bool) : IO (Option Entry) := do
  let place := (← IO.currentDir) / locationText l
  unless ← place.pathExists do return none
  match (← place.metadata).type with
  | .dir => return some .directory
  | _ =>
    if withContent then return some (.file (← IO.FS.readBinFile place).toList)
    else return some (.file [])

/-- Adds what is below a directory, down to a depth. Only schema files are read; links to
directories are not followed. -/
def addBelow : (depth : Nat) → FileTree → Location → IO FileTree
  | 0, t, _ => return t
  | depth + 1, t, l => do
    let mut t := t
    for item in ← ((← IO.currentDir) / locationText l).readDir do
      let m := l ++ [item.fileName]
      if let some e ← readEntry m (SchemaFile.isLoaded m) then
        t := t.insert m e
        if e = .directory && (← item.path.symlinkMetadata).type matches .dir then
          t ← addBelow depth t m
    return t

def addNamed (t : FileTree) (p : Path) : IO FileTree := do
  if FileTree.hasNull p then return t
  let l := (p.absolute t.home).parts
  let mut t := t
  for above in (List.range l.length).map (l.take <| · + 1) do
    if let some e ← readEntry above true then t := t.insert above e
  if t.get? l = some .directory then addBelow FileTree.longestPath t l else return t

def carryOut (before after : FileTree) : IO Unit := do
  for (l, e) in after.entries.reverse do
    unless before.get? l = some e do
      match e with
      | .directory => IO.FS.createDir (locationText l)
      | .file bytes => IO.FS.writeBinFile (locationText l) ⟨bytes.toArray⟩

def now : IO Moment :=
  IO.FS.withTempFile fun _ place => do
    let t := (← place.metadata).modified
    return ⟨t.sec.toNat, t.nsec.toNat / 1000000⟩

def runOnFiles (arguments : List String) : IO UInt32 := do
  let home := (Path.ofText (← IO.currentDir).toString).parts
  let env : Environment ← variableNames.filterMapM fun v => do
    return (← IO.getEnv v).map (v, ·)
  let names := arguments.flatMap namesIn ++ env.map (·.2) ++ [defaultSchemaDir]
  let named ← (names.map Path.ofText).foldlM addNamed (.empty home)
  let inConfig := names.flatMap (textsInConfig named)
  let before ← (inConfig.map Path.ofText).foldlM addNamed named
  let report := (program .styled (← now).stamp env arguments).on before
  carryOut before report.tree
  for o in report.outputs do
    IO.println (outputText o)
  match report.outcome with
  | .error f =>
    IO.eprintln f.message
    return 1
  | .ok exit =>
    IO.print exit.answer
    IO.eprint exit.complaint
    return exit.number.toUInt32

end SchemaToJava.CommandLine

def main (arguments : List String) : IO UInt32 := SchemaToJava.CommandLine.runOnFiles arguments
