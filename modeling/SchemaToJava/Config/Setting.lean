import SchemaToJava.Config.Problem
import SchemaToJava.Emission.JavaType
import SchemaToJava.Entries
import SchemaToJava.Path
import SchemaToJava.Traced
import SchemaToJava.Yaml.Document

/-!
Settings and the configuration they make. Every field is checked by itself, so one report names all
fields that are missing or wrong, each once and in a fixed order.
-/

namespace SchemaToJava

open Text (Wide)

structure Config where
  schemaDir : Path
  outputDir : Path
  packageName : String
  excludeFiles : List Wide
  deriving DecidableEq, Repr

namespace Config

/-- A setting as it was given: a value from a file or an argument, or a path that was recognised as
one before. -/
inductive Setting where
  | value (v : Yaml.Value)
  | path (p : Path)
  deriving Repr

def Setting.ofText (s : String) : Setting := .value (.text (.ofString s))

abbrev Settings := Entries String Setting

/-- The two keys a field may be given under. The first one wins. -/
structure FieldKeys where
  key : String
  otherKey : String
  deriving DecidableEq, Repr

def schemaDirKeys : FieldKeys := ⟨"schemaDir", "schema_dir"⟩

def outputDirKeys : FieldKeys := ⟨"outputDir", "output_dir"⟩

def packageNameKeys : FieldKeys := ⟨"packageName", "package_name"⟩

def excludeFilesKeys : FieldKeys := ⟨"excludeFiles", "exclude_files"⟩

def FieldKeys.find? (k : FieldKeys) (s : Settings) : Option (String × Setting) :=
  match s.lookup k.key with
  | some v => some (k.key, v)
  | none => (s.lookup k.otherKey).map (k.otherKey, ·)

abbrev Checked (α : Type) := Except Problem α

def required {α : Type} (k : FieldKeys) (check : Setting → Except Reason α) (s : Settings) :
    Checked α :=
  match k.find? s with
  | none => .error ⟨k.key, .missing⟩
  | some (key, v) => (check v).mapError (⟨key, ·⟩)

/-- A directory. A blank text would mean the working directory, which nobody asks for that way. -/
def checkPath : Setting → Except Reason Path
  | .path p => .ok p
  | .value (.text t) => if Wide.isBlank t then .error .blankPath else .ok (.ofText (Wide.lossy t))
  | .value _ => .error .notPath

def packageNameOf (t : Wide) : Except Reason String :=
  match Wide.ordinary (Wide.trim t) with
  | .ok s => if Java.isPackageName s then .ok s else .error (.notPackageName s)
  | .error h => .error (.halvesInPackageName h)

def checkPackageName : Setting → Except Reason String
  | .value (.text t) => packageNameOf t
  | .value (.binary bytes) =>
    match Text.Utf8.decode bytes with
    | .ok cs => packageNameOf (.ofChars cs)
    | .error _ => .error .undecodableText
  | _ => .error .notText

/-- The schema file that is left out unless others are named: it only declares the root types. -/
def bootstrapFile : String := "codegen.graphqls"

def defaultExcludeFiles : List Wide := [.ofString bootstrapFile]

/-- The trimmed names that are not blank, each once and in order; the default if there are none. -/
def nameSet (names : List Wide) : List Wide :=
  let kept := ((names.map Wide.trim).filter (!·.isEmpty)).eraseDups
  if kept.isEmpty then defaultExcludeFiles else kept.mergeSort Wide.le

def namesOf (items : List Yaml.Value) : Except Reason (List Wide) :=
  if items.all (·.isShowable) then .ok (nameSet (items.map (·.shown)))
  else .error .unwritableInteger

/-- File names to leave out: a text with commas, a list or set of values, or the keys of a mapping.
-/
def checkNames : Setting → Except Reason (List Wide)
  | .value .null => .ok defaultExcludeFiles
  | .value (.text t) => .ok (nameSet (t.splitOn (.char ',')))
  | .value (.list items) => namesOf items
  | .value (.set items) => namesOf items
  | .value (.mapping entries) => namesOf (entries.map (·.1))
  | .value (.binary bytes) => namesOf (bytes.map fun b => .int b.toNat)
  | _ => .error .notNameSet

def excludeFilesOf (s : Settings) : Checked (List Wide) :=
  match excludeFilesKeys.find? s with
  | none => .ok defaultExcludeFiles
  | some (key, v) => (checkNames v).mapError (⟨key, ·⟩)

def problem? {α : Type} : Checked α → List Problem
  | .ok _ => []
  | .error p => [p]

def ofSettings (s : Settings) : Except (List Problem) Config :=
  let schemaDir := required schemaDirKeys checkPath s
  let outputDir := required outputDirKeys checkPath s
  let packageName := required packageNameKeys checkPackageName s
  let excludeFiles := excludeFilesOf s
  match schemaDir, outputDir, packageName, excludeFiles with
  | .ok schemaDir, .ok outputDir, .ok packageName, .ok excludeFiles =>
    .ok ⟨schemaDir, outputDir, packageName, excludeFiles⟩
  | _, _, _, _ =>
    .error (problem? schemaDir ++ problem? outputDir ++ problem? packageName ++
      problem? excludeFiles)

/-- The fault that problems are. Halves in one of them keep all of them from being reported. -/
def faultOf (problems : List Problem) : Fault :=
  match problems.findSome? (·.reason.halves?) with
  | some h => .halves h
  | none => .configuration problems

def build (s : Settings) : Traced Config :=
  match ofSettings s with
  | .error problems => Traced.fail (faultOf problems)
  | .ok c => do
    Traced.note (.excludingNames c.excludeFiles)
    return c

def knownKeys : List String :=
  [schemaDirKeys, outputDirKeys, packageNameKeys, excludeFilesKeys].flatMap fun k =>
    [k.key, k.otherKey]

def keyOf? : Yaml.Value → Option String
  | .text t => (Wide.toString? t).filter knownKeys.contains
  | _ => none

def Settings.ofDocument (d : Yaml.Document) : Settings :=
  (d.entries?.getD []).filterMap fun (k, item) =>
    (keyOf? k).map (·, .value (d.opened item))

def typesPackage (c : Config) : String := Emission.typesPackage c.packageName

def fetchersPackage (c : Config) : String := Emission.fetchersPackage c.packageName

end Config

end SchemaToJava
