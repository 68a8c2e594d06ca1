import Mathlib
import SchemaToJava.Proofs.Emission.Rendering

/-!
What the names in generated files denote. A compiler sees the files of a document together, so a
short name may also denote a class of another file, or one that no file imports.
-/

namespace SchemaToJava.Emission

open GraphQL Java

def members (as : List Artifact) (package : String) : List String :=
  (as.filter fun a => a.package == package).map (·.name)

/-- What the spelling of a type denotes in the file of `a`, which is one of the files of `as`;
`lang` are the names of the types of `java.lang`. -/
def denotation? (lang : List String) (as : List Artifact) (a : Artifact) (t : TypeRef) :
    Option TypeRef :=
  denoted? a.package a.name a.scope.imports (members as a.package) lang (a.scope.spelling t)

theorem name_mem_members {as : List Artifact} {a : Artifact} (ha : a ∈ as) :
    a.name ∈ members as a.package :=
  List.mem_map_of_mem (List.mem_filter.mpr ⟨ha, beq_self_eq_true _⟩)

theorem mem_members {as : List Artifact} {package n : String} (h : n ∈ members as package) :
    ∃ a ∈ as, a.package = package ∧ a.name = n := by
  obtain ⟨a, ha, rfl⟩ := List.mem_map.mp h
  obtain ⟨hmem, hpackage⟩ := List.mem_filter.mp ha
  exact ⟨a, hmem, beq_iff_eq.mp hpackage, rfl⟩

theorem fetchersPackage_ne_lang (base : String) : fetchersPackage base ≠ "java.lang" := by
  have hstring : javaString ∈ libraryTypes := by decide
  intro h
  exact library_package_ne_fetchers base hstring (congrArg some h.symm)

/-- Nothing in a fetcher interface refers to its own package. -/
theorem IsReference.package_ne {base : String} {t : TypeRef} (h : IsReference base t) :
    t.package ≠ some (fetchersPackage base) := by
  intro hp
  cases h with
  | primitive => cases hp
  | library h => exact library_package_ne_fetchers base h hp
  | dataClass =>
    have hpackage : typesPackage base = fetchersPackage base := Option.some.inj hp
    exact absurd (subpackage_inj hpackage) (by decide)

section

variable {base fileName : String} {doc : Document} {as : List Artifact}

theorem written_artifacts (h : doc.Named) (has : artifacts base doc fileName = .ok as) :
    ∀ a ∈ as, WrittenArtifact base a := by
  obtain ⟨classes, i, hc, hi, rfl⟩ := artifacts_eq_ok_iff.mp has
  intro a ha
  rcases class_or_fetcher ha with ⟨c, hmem, rfl⟩ | rfl
  · exact (written_dataClasses base h _ classes hc c hmem).written
  · exact (written_fetcher base h fileName i hi).written

theorem not_mem_members_fetchers (has : artifacts base doc fileName = .ok as) :
    "String" ∉ members as (fetchersPackage base) := by
  obtain ⟨classes, i, hc, hi, rfl⟩ := artifacts_eq_ok_iff.mp has
  intro hmem
  obtain ⟨a, ha, hpackage, hname⟩ := mem_members hmem
  rcases class_or_fetcher ha with ⟨c, hmem, rfl⟩ | rfl
  · have htypes : typesPackage base = fetchersPackage base :=
      (package_of_dataClasses hc hmem).symm.trans hpackage
    exact absurd (subpackage_inj htypes) (by decide)
  · obtain ⟨-, _, -, rfl⟩ := fetcher_eq_ok_iff.mp hi
    have hends := congrArg (·.toList.reverse.take 1) hname
    simp [Artifact.name, fetcherName] at hends

theorem package_ofInterface (has : artifacts base doc fileName = .ok as) {i : InterfaceDecl}
    (hi : .ofInterface i ∈ as) : i.package = fetchersPackage base := by
  obtain ⟨classes, j, -, hj, rfl⟩ := artifacts_eq_ok_iff.mp has
  rcases class_or_fetcher hi with ⟨c, -, hc⟩ | hsame
  · cases hc
  · cases hsame
    exact package_of_fetcher hj

end

/-- A type is denoted by its spelling if it is known wherever the spelling is looked up. -/
theorem WrittenArtifact.denotation?_eq {base : String} {as : List Artifact} {a : Artifact}
    (h : WrittenArtifact base a) {lang : List String} (hlang : "String" ∈ lang) {t : TypeRef}
    (ht : t ∈ a.references)
    (hmember : t.package = some a.package → t.simpleName ∈ members as a.package)
    (hstring : t = javaString → "String" ∈ members as a.package → a.name = "String") :
    denotation? lang as a t = some t := by
  have href := h.references t ht
  have hown := a.owner?_scope_name
  unfold denotation?
  rw [← Artifact.package_scope]
  refine a.sound_scope.denoted?_spelling h.dot_not_mem (by rwa [Artifact.package_scope]) href.plain
    (by rwa [Artifact.package_scope]) fun hpackage howner => ?_
  have hname := href.lang_iff.mp hpackage
  have hjava : t = javaString := by
    obtain ⟨n, p⟩ := t
    simp only at hpackage hname
    rw [hpackage, hname]
    rfl
  rw [hname, Artifact.package_scope]
  refine ⟨fun hmem => ?_, hlang⟩
  -- the class `String` writes the other type of its name with the package
  rw [hname, ← hstring hjava hmem, hown] at howner
  have hpackages : a.package = "java.lang" :=
    Option.some.inj ((congrArg TypeRef.package (Option.some.inj howner)).trans hpackage)
  rcases h.package with hp | hp
  · exact typesPackage_ne_lang base (hp.symm.trans hpackages)
  · exact fetchersPackage_ne_lang base (hp.symm.trans hpackages)

/-- In generated files, names denote the types they were written for. A data class may also name a
type of its package that the document does not define; nothing is said of `String` in the data
classes of a document that defines a type of that name. -/
theorem denotation?_of_artifacts {lang : List String} (hlang : "String" ∈ lang) {base : String}
    {text : List Char} {doc : Document} (hdoc : Document.parse text = .ok doc) {fileName : String}
    {as : List Artifact} (has : artifacts base doc fileName = .ok as) {a : Artifact} (ha : a ∈ as) :
    a.render = (a.outline.map a.scope.spelling id).text a.scope.imports ∧
      ∀ t ∈ a.outline.types,
        (∀ i, a = .ofInterface i → denotation? lang as a t = some t) ∧
        ((t.package = some a.package → t.simpleName ∈ members as a.package) →
          (t = javaString → "String" ∈ members as a.package → a.name = "String") →
          denotation? lang as a t = some t) ∧
        (t.package = some a.package → t.simpleName ∉ members as a.package →
          denotation? lang as a t =
            if a.scope.spelling t = t.simpleName then
              if t.simpleName ∈ lang then some (.inPackage "java.lang" t.simpleName) else none
            else some t) := by
  have hwritten := written_artifacts (Document.named_of_parse hdoc) has a ha
  refine ⟨a.render_eq, fun t ht => ?_⟩
  rw [Artifact.types_outline] at ht
  have href := hwritten.references t ht
  refine ⟨?_, hwritten.denotation?_eq hlang ht, fun hpackage hmember => ?_⟩
  · rintro i rfl
    have hfetchers : (Artifact.ofInterface i).package = fetchersPackage base :=
      package_ofInterface has ha
    refine hwritten.denotation?_eq hlang ht ?_ ?_
    · intro hpackage
      exact absurd (hpackage.trans (congrArg some hfetchers)) href.package_ne
    · intro _ hmem
      rw [hfetchers] at hmem
      exact absurd hmem (not_mem_members_fetchers has)
  · unfold denotation?
    rw [← Artifact.package_scope a] at hpackage ⊢
    refine a.sound_scope.denoted?_spelling_of_not_mem hwritten.dot_not_mem href.plain ?_ hpackage ?_
    · rw [Artifact.package_scope]
      exact name_mem_members ha
    · rwa [Artifact.package_scope]

def shadowingText : List Char :=
  "type String \x7b a: Int \x7d type A \x7b s: String o: Object \x7d".toList

def shadowingDocument : Document :=
  ⟨[.typeSystem (.object ⟨none, "String", [], [], [⟨none, "a", [], .named "Int", []⟩]⟩),
    .typeSystem (.object ⟨none, "A", [], [],
      [⟨none, "s", [], .named "String", []⟩, ⟨none, "o", [], .named "Object", []⟩]⟩)]⟩

def shadowedClass : Artifact :=
  .ofClass ⟨"p.types", "A", dataClassAnnotations,
    [⟨"s", javaString, []⟩, ⟨"o", .inPackage "p.types" "Object", []⟩], some "a.graphqls"⟩

def shadowingArtifacts : List Artifact :=
  [.ofClass ⟨"p.types", "String", dataClassAnnotations, [⟨"a", .primitive "int", []⟩],
      some "a.graphqls"⟩,
    shadowedClass, .ofInterface ⟨"p.fetchers", "AFetcher", [component], [], some "a.graphqls"⟩]

theorem parse_shadowingText : Document.parse shadowingText = .ok shadowingDocument := by
  cbv

theorem artifacts_shadowingDocument :
    artifacts "p" shadowingDocument "a.graphqls" = .ok shadowingArtifacts := by
  cbv

theorem denotation?_shadowedClass {t : TypeRef}
    (howner : shadowedClass.scope.owner? t.simpleName = some t)
    (himport : shadowedClass.scope.needsImport t = false) (hform : nameForm t.simpleName = .short)
    (hown : t.simpleName ≠ "A") :
    denotation? ["Object", "String"] shadowingArtifacts shadowedClass t =
      if t.simpleName ∈ ["String", "A"] then some (.inPackage "p.types" t.simpleName)
      else if t.simpleName ∈ ["Object", "String"] then some (.inPackage "java.lang" t.simpleName)
      else none := by
  have hdots : ∀ e ∈ shadowedClass.scope.claimed, '.' ∉ e.2.simpleName.toList := by decide +kernel
  have hspelling : shadowedClass.scope.spelling t = t.simpleName := by
    simp [ImportScope.spelling, howner]
  have hnone := shadowedClass.sound_scope.imported?_eq_none hdots howner himport
  unfold denotation?
  rw [hspelling]
  exact denoted?_of_short hform hown hnone

/-- Names do not always denote the types they were written for. -/
theorem denotation?_ne_of_shadowing :
    isPackageName "p" = true ∧ Document.parse shadowingText = .ok shadowingDocument ∧
      artifacts "p" shadowingDocument "a.graphqls" = .ok shadowingArtifacts ∧
      shadowedClass ∈ shadowingArtifacts ∧ javaString ∈ shadowedClass.outline.types ∧
      .inPackage "p.types" "Object" ∈ shadowedClass.outline.types ∧
      denotation? ["Object", "String"] shadowingArtifacts shadowedClass javaString =
        some (.inPackage "p.types" "String") ∧
      denotation? ["Object", "String"] shadowingArtifacts shadowedClass
        (.inPackage "p.types" "Object") = some (.inPackage "java.lang" "Object") := by
  refine ⟨by decide, parse_shadowingText, artifacts_shadowingDocument, by decide, by decide,
    by decide, ?_, ?_⟩
  · exact denotation?_shadowedClass (by decide) (by decide) (by decide) (by decide)
  · exact denotation?_shadowedClass (by decide) (by decide) (by decide) (by decide)

theorem denotation?_of_shadowing :
    "String" ∈ ["Object", "String"] ∧ Document.parse shadowingText = .ok shadowingDocument ∧
      artifacts "p" shadowingDocument "a.graphqls" = .ok shadowingArtifacts ∧
      ∀ a ∈ shadowingArtifacts,
        a.render = (a.outline.map a.scope.spelling id).text a.scope.imports ∧
          ∀ t ∈ a.outline.types,
            (∀ i, a = .ofInterface i →
              denotation? ["Object", "String"] shadowingArtifacts a t = some t) ∧
            ((t.package = some a.package → t.simpleName ∈ members shadowingArtifacts a.package) →
              (t = javaString → "String" ∈ members shadowingArtifacts a.package →
                a.name = "String") →
              denotation? ["Object", "String"] shadowingArtifacts a t = some t) ∧
            (t.package = some a.package → t.simpleName ∉ members shadowingArtifacts a.package →
              denotation? ["Object", "String"] shadowingArtifacts a t =
                if a.scope.spelling t = t.simpleName then
                  if t.simpleName ∈ ["Object", "String"] then
                    some (.inPackage "java.lang" t.simpleName)
                  else none
                else some t) :=
  ⟨by decide, parse_shadowingText, artifacts_shadowingDocument, fun _ ha =>
    denotation?_of_artifacts (by decide) parse_shadowingText artifacts_shadowingDocument ha⟩

end SchemaToJava.Emission
