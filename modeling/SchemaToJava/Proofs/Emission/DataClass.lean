import Mathlib
import SchemaToJava.Proofs.Emission.DataType
import SchemaToJava.Proofs.Emission.Identifiers

/-!
The data classes of a document, as its definitions and extensions make them: one class for each name
that is defined, with one field for each field that belongs to the name.
-/

namespace SchemaToJava.Emission

open GraphQL Java

/-- The field of a class that stands for a field of the schema. -/
structure RepresentsField (base : String) (kind : TypeKind) (f : DataField) (g : FieldDecl) :
    Prop where
  name : g.name = f.name
  type : javaType base f.type.base = .ok g.type
  annotations : fieldAnnotations kind f = .ok g.annotations

/-- The class that stands for a type: its fields stand for those of the type, one for one. -/
structure Represents (base : String) (source : Option String) (d : DataType) (c : ClassDecl) :
    Prop where
  package : c.package = typesPackage base
  name : c.name = d.name
  annotations : c.annotations = dataClassAnnotations
  fields : List.Forall₂ (RepresentsField base d.kind) d.fields c.fields
  source : c.source = source

section Classes

variable {base : String} {source : Option String}

theorem representsField_of_dataClassField {kind : TypeKind} {f : DataField} {g : FieldDecl}
    (h : (dataClassField base kind f).outcome = .ok g) : RepresentsField base kind f g := by
  obtain ⟨-, type, annotations, htype, hannotations, rfl⟩ := dataClassField_eq_ok_iff.mp h
  exact ⟨rfl, htype, hannotations⟩

theorem represents_of_dataClass {d : DataType} {c : ClassDecl}
    (h : (dataClass base source d).outcome = .ok c) : Represents base source d c := by
  obtain ⟨-, fields, hfields, rfl⟩ := dataClass_eq_ok_iff.mp h
  exact ⟨rfl, rfl, rfl, hfields.imp fun _ _ => representsField_of_dataClassField, rfl⟩

theorem mem_gathered {ds es : List DataType} {name : String} {kind : TypeKind} {f : DataField}
    (h : f ∈ gathered ds es name kind) : ∃ d ∈ ds ++ es, f ∈ d.fields := by
  rcases List.mem_append.mp h with h | h
  · obtain ⟨d, hd, hf⟩ := List.mem_flatMap.mp h
    exact ⟨d, List.mem_append_left es (List.mem_of_mem_filter hd), hf⟩
  · obtain ⟨e, he, hf⟩ := List.mem_flatMap.mp h
    exact ⟨e, List.mem_append_right ds (List.mem_of_mem_filter he), hf⟩

theorem fields_of_mem_merged {ds es : List DataType} {d : DataType} (h : d ∈ merged ds es)
    {f : DataField} (hf : f ∈ d.fields) : ∃ e ∈ ds ++ es, f ∈ e.fields := by
  obtain ⟨first, -, rfl⟩ := List.mem_map.mp h
  exact mem_gathered hf

def ShortFields (doc : Document) : Prop :=
  ∀ d ∈ definedTypes doc ++ extendedTypes doc, ∀ f ∈ d.fields, ShortIntegers f.directives

section Documents

variable {doc : Document}

theorem screens_classes (hdoc : doc.Named) (hshort : ShortFields doc) {types : Collection}
    (htypes : (dataTypes doc).outcome = .ok types) :
    Screens (types.flatMap DataType.uses) (types.mapM (dataClass base source)) := by
  obtain ⟨-, rfl⟩ := dataTypes_eq_ok_iff.mp htypes
  refine .mapM fun d hd => screens_dataClass base source (named_dataTypes hdoc _ htypes d hd) ?_
  intro f hf
  obtain ⟨e, he, hfe⟩ := fields_of_mem_merged hd hf
  exact hshort e he f hfe

theorem dataClasses_eq_error_iff (hdoc : doc.Named) (hshort : ShortFields doc) {f : Fault} :
    (dataClasses base doc source).outcome = .error f ↔
      FirstViolation (definedTypes doc) (extendedTypes doc) f ∨
        Consistent (definedTypes doc) (extendedTypes doc) ∧ ∃ element name,
          firstReserved ((merged (definedTypes doc) (extendedTypes doc)).flatMap DataType.uses) =
            some (element, name) ∧ f = .notIdentifier element name := by
  have hbuild : (dataClasses base doc source).outcome =
      (dataTypes doc).outcome >>= fun types => (types.mapM (dataClass base source)).outcome := by
    simp only [dataClasses, Traced.outcome_bind, Traced.outcome_note, Traced.outcome_pure]
    exact bind_congr fun types => bind_pure (m := Except Fault) _
  rw [hbuild, Outcome.bind_eq_error_iff, dataTypes_eq_error_iff]
  refine or_congr_right ⟨?_, ?_⟩
  · rintro ⟨types, htypes, hf⟩
    obtain ⟨hconsistent, rfl⟩ := dataTypes_eq_ok_iff.mp htypes
    exact ⟨hconsistent, (screens_classes hdoc hshort htypes).eq_error_iff.mp hf⟩
  · rintro ⟨hconsistent, hf⟩
    have htypes := dataTypes_of_consistent hconsistent
    exact ⟨_, htypes, (screens_classes hdoc hshort htypes).eq_error_iff.mpr hf⟩

theorem represents_of_dataClasses {classes : List ClassDecl}
    (h : (dataClasses base doc source).outcome = .ok classes) :
    Consistent (definedTypes doc) (extendedTypes doc) ∧
      List.Forall₂ (Represents base source) (merged (definedTypes doc) (extendedTypes doc))
        classes := by
  obtain ⟨types, htypes, hclasses⟩ := dataClasses_eq_ok_iff.mp h
  obtain ⟨hconsistent, rfl⟩ := dataTypes_eq_ok_iff.mp htypes
  exact ⟨hconsistent, hclasses.imp fun _ _ => represents_of_dataClass⟩

/-- A document gathers its types exactly if its definitions and extensions are consistent, and gives
each type one class with one field for each of its fields. What is refused is refused for the first
violation or, if there is none, for the first reserved word among the names of the classes. -/
theorem dataClasses_of_document (doc : Document) (base : String) (source : Option String) :
    (∀ types, (dataTypes doc).outcome = .ok types ↔
      Consistent (definedTypes doc) (extendedTypes doc) ∧
        types = merged (definedTypes doc) (extendedTypes doc)) ∧
    (∀ f, (dataTypes doc).outcome = .error f ↔
      FirstViolation (definedTypes doc) (extendedTypes doc) f) ∧
    (∀ classes, (dataClasses base doc source).outcome = .ok classes →
      Consistent (definedTypes doc) (extendedTypes doc) ∧
        List.Forall₂ (Represents base source) (merged (definedTypes doc) (extendedTypes doc))
          classes) ∧
    ∀ text, Document.parse text = .ok doc → ShortFields doc →
      ∀ f, (dataClasses base doc source).outcome = .error f ↔
        FirstViolation (definedTypes doc) (extendedTypes doc) f ∨
          Consistent (definedTypes doc) (extendedTypes doc) ∧ ∃ element name,
            firstReserved ((merged (definedTypes doc) (extendedTypes doc)).flatMap DataType.uses) =
              some (element, name) ∧ f = .notIdentifier element name :=
  ⟨fun _ => dataTypes_eq_ok_iff, fun _ => dataTypes_eq_error_iff,
    fun _ => represents_of_dataClasses, fun _ hparse hshort _ =>
      dataClasses_eq_error_iff (Document.named_of_parse hparse) hshort⟩

def reservedFieldText : List Char :=
  "extend input A \x7b b: Int @Max(value: 5) \x7d input A \x7b class: Int \x7d".toList

def reservedFieldDocument : Document :=
  ⟨[.extension (.input ⟨none, "A", [],
      [⟨none, "b", .named "Int", none, [⟨"Max", [("value", .int "5")]⟩]⟩]⟩),
    .typeSystem (.input ⟨none, "A", [], [⟨none, "class", .named "Int", none, []⟩]⟩)]⟩

theorem parse_reservedFieldText : Document.parse reservedFieldText = .ok reservedFieldDocument := by
  cbv

theorem shortFields_reservedFieldDocument : ShortFields reservedFieldDocument := by
  simp [ShortFields, definedTypes, extendedTypes, reservedFieldDocument, contribution?, isRootName,
    ShortIntegers]
  decide

theorem dataClasses_reservedFieldDocument :
    Document.parse reservedFieldText = .ok reservedFieldDocument ∧
      ShortFields reservedFieldDocument ∧
      (dataTypes reservedFieldDocument).outcome =
        .ok [⟨"A", .input, [⟨"class", .named "Int", []⟩,
          ⟨"b", .named "Int", [⟨"Max", [("value", .int "5")]⟩]⟩]⟩] ∧
      (dataClasses "p" reservedFieldDocument none).outcome =
        .error (.notIdentifier "field" "class") := by
  obtain ⟨htypes, -, -, herror⟩ := dataClasses_of_document reservedFieldDocument "p" none
  have hconsistent : Consistent (definedTypes reservedFieldDocument)
      (extendedTypes reservedFieldDocument) := by
    decide
  refine ⟨parse_reservedFieldText, shortFields_reservedFieldDocument, ?_, ?_⟩
  · refine (htypes _).mpr ⟨hconsistent, ?_⟩
    cbv
  · refine (herror _ parse_reservedFieldText shortFields_reservedFieldDocument _).mpr (.inr ?_)
    exact ⟨hconsistent, "field", "class", by decide, rfl⟩

end Documents

end Classes

end SchemaToJava.Emission
