import Mathlib
import SchemaToJava.Proofs.Config.Setting
import SchemaToJava.Proofs.Java.PackageName
import SchemaToJava.Proofs.Text.Wide

/-!
Which texts are accepted as package names. Blanks around a text are no part of the name; what is
left has to follow the grammar of package names, as far as its check goes.
-/

namespace SchemaToJava.Config

open Java Text

/-- The fields of a configuration other than its package name are accepted. -/
structure OtherFieldsAccepted (s : Settings) : Prop where
  schemaDir : ∃ p, required schemaDirKeys checkPath s = .ok p
  outputDir : ∃ p, required outputDirKeys checkPath s = .ok p
  excludeFiles : ∃ names, excludeFilesOf s = .ok names

def packages (c : Config) : List String := [c.packageName, typesPackage c, fetchersPackage c]

theorem forall_packages {IsSegment : String → Prop} {c : Config}
    (h : Dotted IsSegment c.packageName) (htypes : IsSegment "types")
    (hfetchers : IsSegment "fetchers") : ∀ p ∈ packages c, Dotted IsSegment p := by
  simp only [packages, List.forall_mem_cons]
  exact ⟨h, h.subpackage htypes, h.subpackage hfetchers, by simp⟩

section Given

variable {s : Settings} {key : String} {name : Wide}

theorem required_packageName_iff
    (hname : packageNameKeys.find? s = some (key, .value (.text name))) {p : String} :
    required packageNameKeys checkPackageName s = .ok p ↔
      name.StripsTo (.ofString p) ∧ isPackageName p = true := by
  rw [required_eq_ok_iff, Wide.stripsTo_iff, ← packageNameOf_eq_ok_iff]
  constructor
  · rintro ⟨_, _, hfind, hcheck⟩
    rw [hname] at hfind
    cases hfind
    exact hcheck
  · intro h
    exact ⟨key, _, hname, h⟩

theorem accepted_iff (hname : packageNameKeys.find? s = some (key, .value (.text name))) :
    (∃ c, ofSettings s = .ok c) ↔
      OtherFieldsAccepted s ∧ ∃ p, name.StripsTo (.ofString p) ∧ isPackageName p = true := by
  constructor
  · rintro ⟨c, hc⟩
    obtain ⟨hschema, houtput, hpackage, hexclude⟩ := ofSettings_eq_ok_iff.mp hc
    exact ⟨⟨⟨_, hschema⟩, ⟨_, houtput⟩, ⟨_, hexclude⟩⟩, _,
      (required_packageName_iff hname).mp hpackage⟩
  · rintro ⟨⟨⟨schemaDir, hschema⟩, ⟨outputDir, houtput⟩, names, hexclude⟩, p, hp⟩
    exact ⟨⟨schemaDir, outputDir, p, names⟩, ofSettings_eq_ok_iff.mpr
      ⟨hschema, houtput, (required_packageName_iff hname).mpr hp, hexclude⟩⟩

/-- A package name is accepted if, without the blanks around it, it is dotted segments, each of them
a legal identifier or one with a line feed behind it, which may be reserved then; so without line
feeds the names that are accepted are the legal ones. What is stored has no blanks around it, and
what holds for it holds for the packages inside it. -/
theorem packageName_of_settings
    (hname : packageNameKeys.find? s = some (key, .value (.text name))) :
    ((∃ c, ofSettings s = .ok c) ↔ OtherFieldsAccepted s ∧
      ∃ p, name.StripsTo (.ofString p) ∧ Dotted AdmittedSegment p) ∧
    (∀ p, name.StripsTo (.ofString p) → '\n' ∉ p.toList →
      ((∃ c, ofSettings s = .ok c) ↔ OtherFieldsAccepted s ∧ LegalPackage p)) ∧
    ∀ c, ofSettings s = .ok c → name.StripsTo (.ofString c.packageName) ∧
      (∀ p ∈ packages c, Dotted AdmittedSegment p) ∧
      ('\n' ∉ c.packageName.toList → ∀ p ∈ packages c, LegalPackage p) := by
  have haccepted := accepted_iff hname
  refine ⟨?_, fun p hp hline => ?_, fun c hc => ?_⟩
  · simpa only [isPackageName_iff_dotted] using haccepted
  · rw [haccepted, ← isPackageName_iff_legal hline]
    refine and_congr_right fun _ => ⟨?_, fun h => ⟨p, hp, h⟩⟩
    rintro ⟨q, hq, hpackage⟩
    have hsame := (Wide.stripsTo_iff.mp hq).symm.trans (Wide.stripsTo_iff.mp hp)
    rwa [← Wide.ofString_injective hsame]
  · obtain ⟨-, -, hpackage, -⟩ := ofSettings_eq_ok_iff.mp hc
    obtain ⟨hstrips, hchecked⟩ := (required_packageName_iff hname).mp hpackage
    have htypes : LegalIdentifier "types" := (isIdentifier_iff_legal (by decide)).mp (by decide)
    have hfetchers : LegalIdentifier "fetchers" :=
      (isIdentifier_iff_legal (by decide)).mp (by decide)
    refine ⟨hstrips, ?_, fun hline => ?_⟩
    · exact forall_packages (isPackageName_iff_dotted.mp hchecked) (.legal htypes)
        (.legal hfetchers)
    · exact forall_packages ((isPackageName_iff_legal hline).mp hchecked) htypes hfetchers

end Given

def namedSettings (name : String) : Settings :=
  .ofTexts [("schemaDir", "s"), ("outputDir", "o"), ("packageName", name)]

def namedConfig (name : String) : Config :=
  ⟨⟨.working, ["s"]⟩, ⟨.working, ["o"]⟩, name, defaultExcludeFiles⟩

theorem packageName_paddedName :
    packageNameKeys.find? (namedSettings " com.example\n") =
      some ("packageName", .value (.text (.ofString " com.example\n"))) ∧
    ofSettings (namedSettings " com.example\n") = .ok (namedConfig "com.example") ∧
    ∀ p ∈ packages (namedConfig "com.example"), LegalPackage p := by
  have hname : packageNameKeys.find? (namedSettings " com.example\n") =
      some ("packageName", .value (.text (.ofString " com.example\n"))) := rfl
  have hconfig : ofSettings (namedSettings " com.example\n") = .ok (namedConfig "com.example") := by
    cbv
  exact ⟨hname, hconfig, ((packageName_of_settings hname).2.2 _ hconfig).2.2 (by decide)⟩

/-- A reserved word with a line feed behind it is accepted as a segment, which it is not. -/
theorem accepts_reservedWord :
    ofSettings (namedSettings "class\n.x") = .ok (namedConfig "class\n.x") ∧
    Wide.StripsTo (.ofString "class\n.x") (.ofString "class\n.x") ∧
    ¬ LegalPackage "class\n.x" := by
  refine ⟨by cbv, Wide.stripsTo_iff.mpr (by decide), fun h => ?_⟩
  have hsegment : LegalIdentifier "class\n" := legalPackage_iff.mp h _ (by decide)
  exact hsegment.lineEnd_not_mem (by decide)

end SchemaToJava.Config
