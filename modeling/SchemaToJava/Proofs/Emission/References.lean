import SchemaToJava.Proofs.Emission.Artifacts
import SchemaToJava.Proofs.GraphQL.Names
import SchemaToJava.Proofs.Java.AnnotationReader
import SchemaToJava.Proofs.Java.Naming

/-!
The types that generated files refer to: primitive types, some of libraries and those of the schema.
Their names tell which is which.
-/

namespace SchemaToJava.Emission

open GraphQL Java

def libraryTypes : List TypeRef :=
  [javaString, environmentParameter.type, component.type, inputArgument.type, Root.query.marker.type,
    Root.mutation.marker.type, notNull.type] ++ dataClassAnnotations.map (·.type) ++
    catalogue.map (.inPackage validationPackage ·)

/-- No library has a package that is called like one of those that are generated. -/
theorem library_package_ne (base : String) {inner : String} (hinner : inner ∈ ["types", "fetchers"])
    {t : TypeRef} (h : t ∈ libraryTypes) : t.package ≠ some (subpackage base inner) := by
  have hlast : ∀ u ∈ libraryTypes, ∀ p ∈ u.package, ∀ n ∈ ["types", "fetchers"],
      (segments p).getLast? ≠ some n := by
    decide +kernel
  have hdots : ∀ n ∈ ["types", "fetchers"], '.' ∉ n.toList := by decide
  intro hp
  apply hlast t h _ hp inner hinner
  rw [segments_subpackage base (hdots inner hinner), List.getLast?_concat]

theorem library_package_ne_types (base : String) {t : TypeRef} (h : t ∈ libraryTypes) :
    t.package ≠ some (typesPackage base) :=
  library_package_ne base (by decide) h

theorem library_package_ne_fetchers (base : String) {t : TypeRef} (h : t ∈ libraryTypes) :
    t.package ≠ some (fetchersPackage base) :=
  library_package_ne base (by decide) h

/-- The types that an artifact may refer to. -/
inductive IsReference (base : String) : TypeRef → Prop
  | primitive {n : String} (h : n ∈ primitiveNames) : IsReference base (.primitive n)
  | library {t : TypeRef} (h : t ∈ libraryTypes) : IsReference base t
  | dataClass {n : String} (hname : IsName n) (h : isIdentifier n = true)
    (hscalar : n ≠ "String") : IsReference base (.inPackage (typesPackage base) n)

theorem isReference_of_javaType {base name : String} {t : TypeRef} (hname : IsName name)
    (h : javaType base name = .ok t) : IsReference base t := by
  have hscalars : ∀ e ∈ builtinScalars, e.2 = javaString ∨ ∃ n ∈ primitiveNames, e.2 = .primitive n := by
    decide
  rcases eq_of_javaType h with hmem | ⟨hscalar, hidentifier, rfl⟩
  · rcases hscalars (name, t) hmem with ht | ⟨n, hn, ht⟩
    · rw [show t = javaString from ht]
      exact .library (by decide)
    · rw [show t = .primitive n from ht]
      exact .primitive hn
  · refine .dataClass hname hidentifier ?_
    rintro rfl
    exact absurd hscalar (by decide)

theorem isWord_of_isName {s : String} (h : IsName s) : IsWord s := by
  refine ⟨h.nonempty, fun c hc => ?_⟩
  have hpart := h.parts c hc
  simp only [isNameContinue, isNameStart, isDigit, Bool.or_eq_true, Bool.and_eq_true,
    decide_eq_true_eq] at hpart
  simp only [isIdentifierPart, isIdentifierStart, Bool.or_eq_true, Bool.and_eq_true,
    decide_eq_true_eq, beq_iff_eq]
  tauto

theorem typesPackage_ne_lang (base : String) : typesPackage base ≠ "java.lang" := by
  have hstring : javaString ∈ libraryTypes := by decide
  intro h
  exact library_package_ne_types base hstring (congrArg some h.symm)

theorem not_mem_primitiveNames {n : String} (h : isIdentifier n = true) : n ∉ primitiveNames := by
  have hreserved : ∀ m ∈ primitiveNames, m ∈ reservedWords := by decide
  exact fun hmem => (isIdentifier_iff.mp h).2 (hreserved n hmem)

namespace IsReference

variable {base : String} {t : TypeRef}

theorem plain (h : IsReference base t) : t.Plain := by
  cases h with
  | @primitive n h =>
    have hdots : ∀ m ∈ primitiveNames, '.' ∉ m.toList := by decide
    exact ⟨hdots n h, by simp [TypeRef.primitive, TypeRef.isPrimitive, h]⟩
  | library h =>
    have hall : ∀ u ∈ libraryTypes, '.' ∉ u.simpleName.toList ∧
        (u.isPrimitive = true ↔ u.simpleName ∈ primitiveNames) := by
      decide +kernel
    exact ⟨(hall t h).1, (hall t h).2⟩
  | @dataClass n _ h _ =>
    refine ⟨dot_not_mem h, ?_⟩
    simp [TypeRef.inPackage, TypeRef.isPrimitive, not_mem_primitiveNames h]

theorem isWord_simpleName (h : IsReference base t) : IsWord t.simpleName := by
  cases h with
  | @primitive n h =>
    have hall : ∀ m ∈ primitiveNames, m ≠ "" ∧ m.toList.all isIdentifierPart = true := by
      decide
    exact isWord_of_all (hall n h).2 (hall n h).1
  | library h =>
    have hall : ∀ u ∈ libraryTypes, u.simpleName ≠ "" ∧
        u.simpleName.toList.all isIdentifierPart = true := by
      decide +kernel
    exact isWord_of_all (hall t h).2 (hall t h).1
  | dataClass hname => exact isWord_of_isName hname

theorem lang_iff (h : IsReference base t) :
    t.package = some "java.lang" ↔ t.simpleName = "String" := by
  cases h with
  | @primitive n h =>
    have hne : ∀ m ∈ primitiveNames, m ≠ "String" := by decide
    simp [TypeRef.primitive, hne n h]
  | library h =>
    have hall : ∀ u ∈ libraryTypes, u.package = some "java.lang" ↔ u.simpleName = "String" := by
      decide +kernel
    exact hall t h
  | dataClass _ _ hscalar =>
    simp [TypeRef.inPackage, typesPackage_ne_lang, hscalar]

end IsReference

end SchemaToJava.Emission
