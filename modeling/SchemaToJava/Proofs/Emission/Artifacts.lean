import Mathlib.Data.List.Nodup
import SchemaToJava.Emission.DataClass
import SchemaToJava.Emission.Fetcher
import SchemaToJava.Entries
import SchemaToJava.Proofs.Java.SourcePath

/-!
What is built from a document. A data class is named for its type, and types have one class each; so
the artifacts of one document can all be written, each into a file of its own.
-/

namespace SchemaToJava.Emission

open GraphQL Java

namespace DataType

theorem name_add (d : DataType) (fields : List DataField) : (d.add fields).1.name = d.name := by
  induction fields generalizing d with
  | nil => rfl
  | cons f rest ih =>
    rw [add]
    split
    · rfl
    · exact ih _

theorem name_of_addAll {d e : DataType} {fields : List DataField} (h : d.addAll fields = .ok e) :
    e.name = d.name := by
  unfold addAll at h
  have hname := name_add d fields
  split at h
  · rename_i heq
    cases h
    rwa [heq] at hname
  · cases h

end DataType

namespace Collection

def names (c : Collection) : List String := c.map (·.name)

theorem names_replace (c : Collection) (d : DataType) : (c.replace d).names = c.names := by
  unfold names replace
  rw [List.map_map]
  refine List.map_congr_left fun e _ => ?_
  simp only [Function.comp_apply]
  split
  · rename_i heq
    exact (beq_iff_eq.mp heq).symm
  · rfl

theorem not_mem_names {c : Collection} {name : String} (h : c.find? name = none) :
    name ∉ c.names := by
  simp only [find?, List.find?_eq_none, beq_iff_eq] at h
  intro hmem
  obtain ⟨e, he, hn⟩ := List.mem_map.mp hmem
  exact h e he hn

theorem nodup_define {c e : Collection} {d : DataType} (hc : c.names.Nodup)
    (h : c.define d = .ok e) : e.names.Nodup := by
  unfold define at h
  split at h
  · rename_i hnone
    obtain ⟨new, hnew, h⟩ := Outcome.bind_eq_ok_iff.mp h
    cases h
    have hname := DataType.name_of_addAll hnew
    unfold names
    rw [List.map_append, List.nodup_append]
    refine ⟨hc, by simp, ?_⟩
    rintro a ha b hb rfl
    rw [List.map_singleton, List.mem_singleton, hname] at hb
    exact not_mem_names hnone (hb ▸ ha)
  · split at h
    · obtain ⟨new, -, h⟩ := Outcome.bind_eq_ok_iff.mp h
      cases h
      rwa [names_replace]
    · cases h

theorem nodup_extend {c e : Collection} {d : DataType} (hc : c.names.Nodup)
    (h : (c.extend d).outcome = .ok e) : e.names.Nodup := by
  have hskip : (extend.skip c d).outcome = .ok e → e.names.Nodup := by
    intro h
    cases h
    exact hc
  unfold extend at h
  split at h
  · exact hskip h
  · split at h
    · rw [Traced.outcome_bind] at h
      obtain ⟨new, -, h⟩ := Outcome.bind_eq_ok_iff.mp h
      cases h
      rwa [names_replace]
    · exact hskip h

end Collection

theorem nodup_dataTypes {doc : Document} {c : Collection} (h : (dataTypes doc).outcome = .ok c) :
    c.names.Nodup := by
  unfold dataTypes at h
  rw [Traced.outcome_bind, Traced.outcome_silently] at h
  obtain ⟨defined, hdefined, h⟩ := Outcome.bind_eq_ok_iff.mp h
  rw [Traced.outcome_foldlM] at h
  have hd : defined.names.Nodup :=
    Outcome.foldlM_induct (P := fun c => c.names.Nodup)
      (fun _ _ _ _ => Collection.nodup_define) (by simp [Collection.names]) hdefined
  exact Outcome.foldlM_induct (P := fun c => c.names.Nodup)
    (fun _ _ _ _ => Collection.nodup_extend) hd h

theorem eq_of_javaType {base name : String} {t : TypeRef} (h : javaType base name = .ok t) :
    (name, t) ∈ builtinScalars ∨
      isBuiltinScalar name = false ∧ isIdentifier name = true ∧
        t = .inPackage (typesPackage base) name := by
  unfold javaType at h
  split at h
  · rename_i hlookup
    cases h
    exact .inl (Entries.mem_of_lookup hlookup)
  · rename_i hlookup
    obtain ⟨_, hrequired, h⟩ := Outcome.bind_eq_ok_iff.mp h
    cases h
    obtain ⟨hidentifier, rfl⟩ := requireIdentifier_eq_ok_iff.mp hrequired
    exact .inr ⟨by simp [isBuiltinScalar, hlookup], hidentifier, rfl⟩

def fieldAnnotations (kind : TypeKind) (f : DataField) : Except Fault (List AnnotationUse) :=
  match kind with
  | .input => (inputAnnotations f.type f.directives).outcome
  | .object => .ok []

theorem outcome_dataClassField (base : String) (kind : TypeKind) (f : DataField) :
    (dataClassField base kind f).outcome = do
      let type ← javaType base f.type.base
      let annotations ← fieldAnnotations kind f
      let name ← requireIdentifier "field" f.name
      return ⟨name, type, annotations⟩ := by
  cases kind <;>
    simp only [dataClassField, fieldAnnotations, Traced.outcome_bind, Traced.outcome_silently,
      Traced.outcome_pure] <;> rfl

theorem dataClassField_eq_ok_iff {base : String} {kind : TypeKind} {f : DataField}
    {out : FieldDecl} :
    (dataClassField base kind f).outcome = .ok out ↔
      isIdentifier f.name = true ∧ ∃ type annotations, javaType base f.type.base = .ok type ∧
        fieldAnnotations kind f = .ok annotations ∧ out = ⟨f.name, type, annotations⟩ := by
  rw [outcome_dataClassField]
  simp only [Outcome.bind_eq_ok_iff, requireIdentifier_eq_ok_iff]
  constructor
  · rintro ⟨type, ht, as, has, _, ⟨hn, rfl⟩, h⟩
    exact ⟨hn, type, as, ht, has, (Except.ok.inj h).symm⟩
  · rintro ⟨hn, type, as, ht, has, rfl⟩
    exact ⟨type, ht, as, has, _, ⟨hn, rfl⟩, rfl⟩

theorem dataClass_eq_ok_iff {base : String} {source : Option String} {d : DataType}
    {out : ClassDecl} :
    (dataClass base source d).outcome = .ok out ↔
      isIdentifier d.name = true ∧ ∃ fields,
        List.Forall₂ (fun f g => (dataClassField base d.kind f).outcome = .ok g) d.fields fields ∧
        out = ⟨typesPackage base, d.name, dataClassAnnotations, fields, source⟩ := by
  unfold dataClass
  simp only [Traced.outcome_bind, Traced.outcome_silently, Traced.outcome_pure,
    Traced.outcome_mapM, Outcome.bind_eq_ok_iff, Outcome.mapM_eq_ok_iff,
    requireIdentifier_eq_ok_iff, Except.ok.injEq]
  constructor
  · rintro ⟨fields, hf, _, ⟨hn, rfl⟩, rfl⟩
    exact ⟨hn, fields, hf, rfl⟩
  · rintro ⟨hn, fields, hf, rfl⟩
    exact ⟨fields, hf, _, ⟨hn, rfl⟩, rfl⟩

theorem dataClasses_eq_ok_iff {base : String} {doc : Document} {source : Option String}
    {out : List ClassDecl} :
    (dataClasses base doc source).outcome = .ok out ↔
      ∃ types, (dataTypes doc).outcome = .ok types ∧
        List.Forall₂ (fun d c => (dataClass base source d).outcome = .ok c) types out := by
  unfold dataClasses
  simp only [Traced.outcome_bind, Traced.outcome_note, Traced.outcome_pure, Traced.outcome_mapM,
    Outcome.bind_eq_ok_iff, Outcome.mapM_eq_ok_iff, Except.ok.injEq]
  constructor
  · rintro ⟨types, ht, classes, hc, -, -, rfl⟩
    exact ⟨types, ht, hc⟩
  · rintro ⟨types, ht, hc⟩
    exact ⟨types, ht, out, hc, (), trivial, rfl⟩

theorem names_of_forall₂ {base : String} {source : Option String} {types : Collection}
    {classes : List ClassDecl}
    (h : List.Forall₂ (fun d c => (dataClass base source d).outcome = .ok c) types classes) :
    classes.map (·.name) = types.names := by
  induction h with
  | nil => rfl
  | cons hd _ ih =>
    obtain ⟨-, _, -, rfl⟩ := dataClass_eq_ok_iff.mp hd
    exact congrArg _ ih

theorem nodup_dataClasses {base : String} {doc : Document} {source : Option String}
    {classes : List ClassDecl} (h : (dataClasses base doc source).outcome = .ok classes) :
    (classes.map (·.name)).Nodup := by
  obtain ⟨types, ht, hc⟩ := dataClasses_eq_ok_iff.mp h
  rw [names_of_forall₂ hc]
  exact nodup_dataTypes ht

theorem dataClass_of_mem {base : String} {doc : Document} {source : Option String}
    {classes : List ClassDecl} (h : (dataClasses base doc source).outcome = .ok classes)
    {c : ClassDecl} (hc : c ∈ classes) : ∃ d, (dataClass base source d).outcome = .ok c := by
  obtain ⟨types, -, hall⟩ := dataClasses_eq_ok_iff.mp h
  obtain ⟨d, -, hd⟩ := Outcome.exists_of_forall₂ hall hc
  exact ⟨d, hd⟩

theorem fetcher_eq_ok_iff {base : String} {doc : Document} {fileName : String}
    {out : InterfaceDecl} :
    (fetcher base doc fileName).outcome = .ok out ↔
      isIdentifier (fetcherName fileName) = true ∧ ∃ ms,
        (methods base [] (operations doc)).outcome = .ok ms ∧
        out = ⟨fetchersPackage base, fetcherName fileName, [component], ms, some fileName⟩ := by
  unfold fetcher
  simp only [Traced.outcome_bind, Traced.outcome_silently, Traced.outcome_note,
    Traced.outcome_pure, Outcome.bind_eq_ok_iff, requireIdentifier_eq_ok_iff, Except.ok.injEq]
  constructor
  · rintro ⟨ms, hm, _, ⟨hn, rfl⟩, -, -, rfl⟩
    exact ⟨hn, ms, hm, rfl⟩
  · rintro ⟨hn, ms, hm, rfl⟩
    exact ⟨ms, hm, _, ⟨hn, rfl⟩, (), trivial, rfl⟩

/-- The artifacts of a document that is the content of the given file: first its data classes, then
its fetcher interface. -/
def artifacts (base : String) (doc : Document) (fileName : String) :
    Except Fault (List Artifact) := do
  let classes ← (dataClasses base doc (some fileName)).outcome
  let interface ← (fetcher base doc fileName).outcome
  return classes.map .ofClass ++ [.ofInterface interface]

theorem artifacts_eq_ok_iff {base : String} {doc : Document} {fileName : String}
    {out : List Artifact} :
    artifacts base doc fileName = .ok out ↔ ∃ classes interface,
      (dataClasses base doc (some fileName)).outcome = .ok classes ∧
      (fetcher base doc fileName).outcome = .ok interface ∧
      out = classes.map .ofClass ++ [.ofInterface interface] := by
  unfold artifacts
  simp only [Outcome.bind_eq_ok_iff]
  constructor
  · rintro ⟨classes, hc, interface, hi, h⟩
    exact ⟨classes, interface, hc, hi, (Except.ok.inj h).symm⟩
  · rintro ⟨classes, interface, hc, hi, rfl⟩
    exact ⟨classes, hc, interface, hi, rfl⟩

section Legal

variable {base : String} {doc : Document} {fileName : String} {source : Option String}

theorem class_or_fetcher {classes : List ClassDecl} {i : InterfaceDecl} {a : Artifact}
    (h : a ∈ classes.map .ofClass ++ [.ofInterface i]) :
    (∃ c ∈ classes, a = .ofClass c) ∨ a = .ofInterface i := by
  simpa [eq_comm] using h

theorem package_of_dataClasses {classes : List ClassDecl}
    (h : (dataClasses base doc source).outcome = .ok classes) {c : ClassDecl} (hc : c ∈ classes) :
    c.package = typesPackage base := by
  obtain ⟨d, hd⟩ := dataClass_of_mem h hc
  obtain ⟨-, _, -, rfl⟩ := dataClass_eq_ok_iff.mp hd
  rfl

theorem package_of_fetcher {i : InterfaceDecl} (h : (fetcher base doc fileName).outcome = .ok i) :
    i.package = fetchersPackage base := by
  obtain ⟨-, ms, -, rfl⟩ := fetcher_eq_ok_iff.mp h
  rfl

theorem legal_class (hb : isPackageName base = true) {classes : List ClassDecl}
    (h : (dataClasses base doc source).outcome = .ok classes) {c : ClassDecl} (hc : c ∈ classes) :
    (Artifact.ofClass c).Legal := by
  obtain ⟨d, hd⟩ := dataClass_of_mem h hc
  obtain ⟨hn, _, -, rfl⟩ := dataClass_eq_ok_iff.mp hd
  exact ⟨isPackageName_subpackage hb (by decide), hn⟩

theorem legal_fetcher (hb : isPackageName base = true) {i : InterfaceDecl}
    (h : (fetcher base doc fileName).outcome = .ok i) : (Artifact.ofInterface i).Legal := by
  obtain ⟨hn, _, -, rfl⟩ := fetcher_eq_ok_iff.mp h
  exact ⟨isPackageName_subpackage hb (by decide), hn⟩

theorem legal_artifacts (hb : isPackageName base = true) {as : List Artifact}
    (h : artifacts base doc fileName = .ok as) {a : Artifact} (ha : a ∈ as) : a.Legal := by
  obtain ⟨classes, i, hc, hi, rfl⟩ := artifacts_eq_ok_iff.mp h
  rcases class_or_fetcher ha with ⟨c, hmem, rfl⟩ | rfl
  · exact legal_class hb hc hmem
  · exact legal_fetcher hb hi

theorem nodup_classPaths (hb : isPackageName base = true) {classes : List ClassDecl}
    (h : (dataClasses base doc source).outcome = .ok classes) (out : Path) :
    (classes.map fun c => (Artifact.ofClass c).path out).Nodup := by
  refine List.Nodup.map_on ?_ (List.Nodup.of_map _ (nodup_dataClasses h))
  intro c hc d hd heq
  have hname := ((legal_class hb h hc).path_injective (legal_class hb h hd) heq).2
  exact List.inj_on_of_nodup_map (nodup_dataClasses h) hc hd hname

theorem segments_typesPackage_ne (base : String) :
    segments (typesPackage base) ≠ segments (fetchersPackage base) := by
  rw [typesPackage, fetchersPackage, segments_subpackage base (by decide),
    segments_subpackage base (by decide)]
  exact fun h => absurd (List.append_cancel_left h) (by decide)

/-- The artifacts of one document go into different files. -/
theorem nodup_paths (hb : isPackageName base = true) {as : List Artifact}
    (h : artifacts base doc fileName = .ok as) (out : Path) :
    (as.map (·.path out)).Nodup := by
  obtain ⟨classes, i, hc, hi, rfl⟩ := artifacts_eq_ok_iff.mp h
  rw [List.map_append, List.map_map, List.nodup_append]
  refine ⟨nodup_classPaths hb hc out, by simp, ?_⟩
  intro p hp q hq heq
  obtain ⟨c, hmem, rfl⟩ := List.mem_map.mp hp
  rw [List.map_singleton, List.mem_singleton] at hq
  subst hq
  have hsegments : segments c.package = segments i.package :=
    ((legal_class hb hc hmem).path_injective (legal_fetcher hb hi) heq).1
  rw [package_of_dataClasses hc hmem, package_of_fetcher hi] at hsegments
  exact segments_typesPackage_ne base hsegments

end Legal

end SchemaToJava.Emission
