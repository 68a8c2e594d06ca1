import SchemaToJava.Proofs.Emission.Rendering
import SchemaToJava.Proofs.Generation.Escape
import SchemaToJava.Proofs.Java.Head

/-!
Where generated files are, and what stands in them. Every file lies below the output directory where
its package and its type belong, and it says so itself.
-/

namespace SchemaToJava.Generation

open GraphQL Java Emission

/-- The data classes and the fetcher interfaces with a base package, of documents that were read
from texts. -/
inductive Emitted (base : String) : Artifact → Prop
  | dataClass {text : List Char} {doc : Document} (hdoc : Document.parse text = .ok doc)
    {source : Option String} {classes : List ClassDecl}
    (h : (dataClasses base doc source).outcome = .ok classes) {c : ClassDecl} (hc : c ∈ classes) :
    Emitted base (.ofClass c)
  | fetcher {text : List Char} {doc : Document} (hdoc : Document.parse text = .ok doc)
    {fileName : String} {i : InterfaceDecl} (h : (fetcher base doc fileName).outcome = .ok i) :
    Emitted base (.ofInterface i)

/-- What a text says of the artifact that it is the file of: it begins with the package, and the
first type that it declares is the artifact's. -/
structure Presents (text : String) (a : Artifact) : Prop where
  package : ("package " ++ a.package ++ ";").toList <+: text.toList
  type : publicType? text = some (a.keyword, a.name)

theorem calm_canonicalName {t : TypeRef} (hname : IsWord t.simpleName)
    (hpackage : ∀ p, t.package = some p → Calm p.toList) : Calm t.canonicalName.toList := by
  have hsimple : Calm t.simpleName.toList := calm_of_not_mem (hname.not_mem (by decide))
  unfold TypeRef.canonicalName
  split
  · exact hsimple
  · rename_i p hp
    rw [String.toList_append, String.toList_append]
    have hdot : Calm ".".toList := calm_of_not_mem (by decide)
    exact ((hpackage p hp).append hdot (.inr (by decide))).append hsimple (.inl (by simp))

theorem calm_package_of_isReference {base : String} (hb : isPackageName base = true) {t : TypeRef}
    (h : IsReference base t) : ∀ p, t.package = some p → Calm p.toList := by
  intro p hp
  cases h with
  | primitive => cases hp
  | library h =>
    have hall : ∀ u ∈ libraryTypes, u.package.all (!·.toList.contains '\n') = true := by
      decide +kernel
    have hpackage := hall t h
    rw [hp] at hpackage
    exact calm_of_not_mem (by simpa using hpackage)
  | dataClass =>
    cases hp
    exact calm_package (isPackageName_subpackage hb (by decide))

namespace Emitted

variable {base : String} {a : Artifact}

theorem legal (h : Emitted base a) (hb : isPackageName base = true) : a.Legal := by
  cases h with
  | dataClass _ h hc => exact legal_class hb h hc
  | fetcher _ h => exact legal_fetcher hb h

theorem written (h : Emitted base a) : WrittenArtifact base a := by
  cases h with
  | dataClass hdoc h hc =>
    exact (written_dataClasses _ (Document.named_of_parse hdoc) _ _ h _ hc).written
  | fetcher hdoc h => exact (written_fetcher _ (Document.named_of_parse hdoc) _ _ h).written

theorem annotations (h : Emitted base a) :
    a.annotations = dataClassAnnotations ∨ a.annotations = [component] := by
  cases h with
  | dataClass _ h hc =>
    obtain ⟨d, hd⟩ := dataClass_of_mem h hc
    obtain ⟨-, _, -, rfl⟩ := dataClass_eq_ok_iff.mp hd
    exact .inl rfl
  | fetcher _ h =>
    obtain ⟨-, _, -, rfl⟩ := fetcher_eq_ok_iff.mp h
    exact .inr rfl

theorem calm_annotations (h : Emitted base a) :
    ∀ u ∈ a.annotations, Calm (u.text a.scope).toList := by
  have hplain : ∀ u ∈ dataClassAnnotations ++ [component], u.members.isEmpty = true ∧
      '\n' ∉ u.type.simpleName.toList ∧ '\n' ∉ u.type.canonicalName.toList := by
    decide
  intro u hu
  have hmem : u ∈ dataClassAnnotations ++ [component] := by
    rcases h.annotations with heq | heq <;> rw [heq] at hu <;> simp [hu]
  obtain ⟨hmembers, hsimple, hcanonical⟩ := hplain u hmem
  have hspelling : '\n' ∉ (a.scope.spelling u.type).toList := by
    unfold ImportScope.spelling
    split
    · exact hsimple
    · exact hcanonical
  rw [AnnotationUse.text, if_pos hmembers]
  exact calm_of_not_mem (by simp [hspelling])

theorem calm_imports (h : Emitted base a) (hb : isPackageName base = true) :
    ∀ i ∈ a.scope.imports, Calm i.toList := by
  intro i hi
  rcases h.written.imported hi with rfl | ⟨t, ht, rfl⟩
  · refine calm_canonicalName h.written.name fun p hp => ?_
    cases hp
    exact calm_package (h.legal hb).package
  · exact calm_canonicalName ht.isWord_simpleName (calm_package_of_isReference hb ht)

theorem presents (h : Emitted base a) (hb : isPackageName base = true) : Presents a.render a where
  package := a.package_prefix_render
  type := a.publicType?_render (calm_package (h.legal hb).package) (h.calm_imports hb)
    h.calm_annotations ⟨h.written.name.not_mem (by decide), h.written.name.not_mem (by decide)⟩

end Emitted

theorem read_of_writeArtifact {t : FileTree} (ht : t.WellFormed) {out p : Path} {a : Artifact}
    (h : ((writeArtifact out a).on t).outcome = .ok p) : p = a.path out ∧
      ((writeArtifact out a).on t).tree.read (a.path out) = .ok (Text.Utf8.encode a.render) := by
  rcases writeArtifact_ends ht out a with ⟨u, hends, hstored⟩ | ⟨e, u, hends, -⟩
  · obtain ⟨hnull, hplace⟩ := hstored.reached a List.mem_cons_self
    refine ⟨Except.ok.inj (h.symm.trans hends.outcome), ?_⟩
    rw [hends.tree]
    exact hstored.wrote.read hnull hplace (by simp)
  · cases h.symm.trans hends.outcome

/-- Every file that is generated with an accepted configuration lies below the output directory,
where its package and its name belong, and begins with that package and declares a public type of
that name. Files have the same path exactly if they have the same package and name, and those of one
document always have places of their own. -/
theorem placement_of_emitted {s : Config.Settings} {c : Config} (hc : Config.ofSettings s = .ok c) :
    (∀ a, Emitted c.packageName a → a.Below c.outputDir ∧ Presents a.render a ∧
      ∀ t : FileTree, t.WellFormed → ∀ p,
        ((writeArtifact c.outputDir a).on t).outcome = .ok p → p = a.path c.outputDir ∧
          ((writeArtifact c.outputDir a).on t).tree.read (a.path c.outputDir) =
            .ok (Text.Utf8.encode a.render)) ∧
    (∀ a b, Emitted c.packageName a → Emitted c.packageName b →
      (a.path c.outputDir = b.path c.outputDir ↔ a.package = b.package ∧ a.name = b.name)) ∧
    ∀ t : FileTree, t.WellFormed → ∀ doc,
      (∀ source classes, (dataClasses c.packageName doc source).outcome = .ok classes →
        (classes.map fun d => t.placeOf ((Artifact.ofClass d).path c.outputDir)).Nodup) ∧
      ∀ fileName as, artifacts c.packageName doc fileName = .ok as →
        (as.map fun a => t.placeOf (a.path c.outputDir)).Nodup := by
  have hb := Config.isPackageName_of_ofSettings hc
  refine ⟨fun a ha => ?_, fun a b ha hother => (ha.legal hb).path_eq_iff (hother.legal hb) _,
    fun t ht doc => ⟨?_, ?_⟩⟩
  · exact ⟨(ha.legal hb).below _, ha.presents hb, fun t ht p => read_of_writeArtifact ht⟩
  · intro source classes h
    have hpaths := nodup_classPaths hb h c.outputDir
    have hplaces : ((classes.map Artifact.ofClass).map fun a =>
        t.placeOf (a.path c.outputDir)).Nodup :=
      Artifact.nodup_places (List.forall_mem_map.mpr fun _ hd => legal_class hb h hd)
        (by rwa [List.map_map]) ht
    rwa [List.map_map] at hplaces
  · exact fun fileName as h =>
      Artifact.nodup_places (fun _ ha => legal_artifacts hb h ha) (nodup_paths hb h _) ht

def samplePlacedText : List Char := "type T \x7b x: Int \x7d".toList

def samplePlacedDocument : Document :=
  ⟨[.typeSystem (.object ⟨none, "T", [], [], [⟨none, "x", [], .named "Int", []⟩]⟩)]⟩

def samplePlacedClass : ClassDecl :=
  ⟨"p.types", "T", dataClassAnnotations, [⟨"x", .primitive "int", []⟩], some "a.graphqls"⟩

theorem placement_of_emitted_sample :
    Config.ofSettings (sampleSettings "z.graphqls") = .ok (sample "z.graphqls") ∧
    Document.parse samplePlacedText = .ok samplePlacedDocument ∧
    (dataClasses "p" samplePlacedDocument (some "a.graphqls")).outcome = .ok [samplePlacedClass] ∧
    ((Artifact.ofClass samplePlacedClass).path ⟨.working, ["o"]⟩).parts =
      ["o", "p", "types", "T.java"] ∧
    publicType? (Artifact.ofClass samplePlacedClass).render = some ("class", "T") := by
  have hdoc : Document.parse samplePlacedText = .ok samplePlacedDocument := by cbv
  have hclasses : (dataClasses "p" samplePlacedDocument (some "a.graphqls")).outcome =
      .ok [samplePlacedClass] := by
    rfl
  have hemitted : Emitted "p" (.ofClass samplePlacedClass) :=
    .dataClass hdoc hclasses List.mem_cons_self
  obtain ⟨hbelow, hpresents, -⟩ := (placement_of_emitted ofSettings_sample).1 _ hemitted
  refine ⟨ofSettings_sample, hdoc, hclasses, hbelow.parts.trans ?_, hpresents.type⟩
  decide

end SchemaToJava.Generation
