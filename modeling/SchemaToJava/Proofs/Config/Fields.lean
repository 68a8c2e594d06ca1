import SchemaToJava.Proofs.Config.Setting

/-!
The fields of a configuration, each of which is checked by itself. Settings make a configuration if
every field is accepted, and else the problems of the fields that are not; so settings count only by
what they give for each field.
-/

namespace SchemaToJava.Config

open Text

/-- The fields, in the order in which their problems are told. -/
inductive Field where
  | schemaDir
  | outputDir
  | packageName
  | excludeFiles
  deriving DecidableEq, Repr

namespace Field

def all : List Field := [schemaDir, outputDir, packageName, excludeFiles]

def keys : Field → FieldKeys
  | schemaDir => schemaDirKeys
  | outputDir => outputDirKeys
  | packageName => packageNameKeys
  | excludeFiles => excludeFilesKeys

def Value : Field → Type
  | schemaDir => Path
  | outputDir => Path
  | packageName => String
  | excludeFiles => List Wide

def checked : (f : Field) → Settings → Checked f.Value
  | schemaDir => required schemaDirKeys checkPath
  | outputDir => required outputDirKeys checkPath
  | packageName => required packageNameKeys checkPackageName
  | excludeFiles => excludeFilesOf

theorem mem_all (f : Field) : f ∈ all := by cases f <;> decide

theorem eq_of_key {f g : Field} {key : String} (hf : key = f.keys.key ∨ key = f.keys.otherKey)
    (hg : key = g.keys.key ∨ key = g.keys.otherKey) : f = g := by
  rcases hf with rfl | rfl <;> cases f <;> cases g <;> first | rfl | revert hg; decide

end Field

def value (c : Config) : (f : Field) → f.Value
  | .schemaDir => c.schemaDir
  | .outputDir => c.outputDir
  | .packageName => c.packageName
  | .excludeFiles => c.excludeFiles

variable {s s' : Settings}

theorem ofSettings_eq_ok_iff_checked {c : Config} :
    ofSettings s = .ok c ↔ ∀ f : Field, f.checked s = .ok (c.value f) := by
  rw [ofSettings_eq_ok_iff]
  constructor
  · rintro ⟨hschema, houtput, hpackage, hexclude⟩ f
    cases f with
    | schemaDir => exact hschema
    | outputDir => exact houtput
    | packageName => exact hpackage
    | excludeFiles => exact hexclude
  · intro h
    exact ⟨h .schemaDir, h .outputDir, h .packageName, h .excludeFiles⟩

theorem problems_eq_flatMap {problems : List Problem} (h : ofSettings s = .error problems) :
    problems = Field.all.flatMap fun f => problem? (f.checked s) := by
  unfold ofSettings at h
  simp only at h
  split at h
  · cases h
  · cases h
    simp only [Field.all, List.flatMap_cons, List.flatMap_nil, List.append_nil, List.append_assoc]
    rfl

theorem required_congr {α : Type} {k : FieldKeys} (check : Setting → Except Reason α)
    (h : k.find? s = k.find? s') : required k check s = required k check s' := by
  rw [required, required, h]

/-- What is given for a field is all that counts for it. -/
theorem Field.checked_congr {f : Field} (h : f.keys.find? s = f.keys.find? s') :
    f.checked s = f.checked s' := by
  cases f with
  | schemaDir => exact required_congr checkPath h
  | outputDir => exact required_congr checkPath h
  | packageName => exact required_congr checkPackageName h
  | excludeFiles =>
    have hfind : excludeFilesKeys.find? s = excludeFilesKeys.find? s' := h
    change excludeFilesOf s = excludeFilesOf s'
    rw [excludeFilesOf, excludeFilesOf, hfind]

theorem ofSettings_congr_checked (h : ∀ f : Field, f.checked s = f.checked s') :
    ofSettings s = ofSettings s' :=
  ofSettings_congr (h .schemaDir) (h .outputDir) (h .packageName) (h .excludeFiles)

end SchemaToJava.Config
