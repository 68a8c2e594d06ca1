import SchemaToJava.Proofs.Emission.Contents
import SchemaToJava.Proofs.Emission.Resolution

/-!
The names in generated files. What is declared there, and what is referred to, has a name that Java
admits; a document or a file name that would need another one is refused. The names of the values
that annotations give are those of the document, whether or not Java reserves them.
-/

namespace SchemaToJava.Emission

open GraphQL Java

/-- The names that an artifact declares: its own and those of its fields, methods and parameters. -/
def declaredNames : Artifact → List String
  | .ofClass c => c.name :: c.fields.map (·.name)
  | .ofInterface i => i.name :: i.methods.flatMap fun m => m.name :: m.parameters.map (·.name)

def annotationUses : Artifact → List AnnotationUse
  | .ofClass c => c.annotations ++ c.fields.flatMap (·.annotations)
  | .ofInterface i => i.annotations ++ i.methods.flatMap fun m =>
      m.annotations ++ m.parameters.flatMap (·.annotations)

def elementNames (a : Artifact) : List String :=
  (annotationUses a).flatMap fun u => u.members.map (·.name)

/-- What an identifier looks like, be it reserved or not. -/
structure IdentifierShape (name : String) : Prop where
  start : ∃ c rest, name.toList = c :: rest ∧ isIdentifierStart c = true
  parts : ∀ c ∈ name.toList, isIdentifierPart c = true

/-- Java admits the names in the artifact, except that the names of the values in annotations may be
reserved. -/
structure LegalNames (a : Artifact) : Prop where
  declared : ∀ n ∈ declaredNames a, LegalIdentifier n
  types : ∀ t ∈ a.references, t ∈ primitiveNames.map .primitive ∨ LegalIdentifier t.simpleName
  elements : ∀ n ∈ elementNames a, IdentifierShape n

theorem identifierShape_of_isName {s : String} (h : IsName s) : IdentifierShape s :=
  ⟨isIdentifierStart_of_isName h, isIdentifierPart_of_isName h⟩

/-- The names that the artifacts of a document need, each with what it is the name of. -/
def neededNames (doc : Document) (fileName : String) : List (String × String) :=
  (merged (definedTypes doc) (extendedTypes doc)).flatMap DataType.uses ++
    ((operations doc).flatMap Operation.uses ++ [("class", fetcherName fileName)])

section Names

variable {base : String}

theorem isIdentifier_of_javaType {name : String} {t : TypeRef} (h : javaType base name = .ok t) :
    isIdentifier name = true := by
  have hscalars : ∀ e ∈ builtinScalars, isIdentifier e.1 = true := by decide
  rcases eq_of_javaType h with hmem | ⟨-, hidentifier, -⟩
  · exact hscalars (name, t) hmem
  · exact hidentifier

theorem identifiers_of_dataClassField {kind : TypeKind} {f : DataField} {g : FieldDecl}
    (h : (dataClassField base kind f).outcome = .ok g) : ∀ u ∈ f.uses, isIdentifier u.2 = true := by
  obtain ⟨hname, type, -, htype, -⟩ := dataClassField_eq_ok_iff.mp h
  simp [DataField.uses, hname, isIdentifier_of_javaType htype]

theorem identifiers_of_dataClass {source : Option String} {d : DataType} {c : ClassDecl}
    (h : (dataClass base source d).outcome = .ok c) : ∀ u ∈ d.uses, isIdentifier u.2 = true := by
  obtain ⟨hname, fields, hfields, -⟩ := dataClass_eq_ok_iff.mp h
  rw [DataType.uses, List.forall_mem_append, List.forall_mem_flatMap]
  refine ⟨fun f hf => ?_, by simp [hname]⟩
  obtain ⟨g, -, hg⟩ := Outcome.exists_of_forall₂ hfields.flip hf
  exact identifiers_of_dataClassField hg

theorem identifiers_of_parameter {a : InputValue} {p : Parameter}
    (h : (parameter base a).outcome = .ok p) :
    ∀ u ∈ parameterUses a, isIdentifier u.2 = true := by
  simp only [parameter, Traced.outcome_bind, Traced.outcome_silently, Outcome.bind_eq_ok_iff,
    requireIdentifier_eq_ok_iff] at h
  obtain ⟨type, htype, -, -, _, ⟨hname, -⟩, -⟩ := h
  simp [parameterUses, hname, isIdentifier_of_javaType htype]

theorem identifiers_of_method {o : Operation} {m : MethodDecl}
    (h : (method base o).outcome = .ok m) : ∀ u ∈ o.uses, isIdentifier u.2 = true := by
  simp only [method, Traced.outcome_bind, Traced.outcome_silently, Traced.outcome_mapM,
    Outcome.bind_eq_ok_iff, Outcome.mapM_eq_ok_iff, requireIdentifier_eq_ok_iff] at h
  obtain ⟨ps, hps, type, htype, _, ⟨hname, -⟩, -⟩ := h
  rw [Operation.uses, List.forall_mem_append, List.forall_mem_flatMap]
  refine ⟨fun a ha => ?_, by simp [hname, isIdentifier_of_javaType htype]⟩
  obtain ⟨p, -, hp⟩ := Outcome.exists_of_forall₂ hps.flip ha
  exact identifiers_of_parameter hp

variable {doc : Document} {fileName : String} {as : List Artifact}

theorem identifiers_of_artifacts (h : artifacts base doc fileName = .ok as) :
    ∀ u ∈ neededNames doc fileName, isIdentifier u.2 = true := by
  obtain ⟨classes, i, hclasses, hi, -⟩ := artifacts_eq_ok_iff.mp h
  obtain ⟨types, htypes, hall⟩ := dataClasses_eq_ok_iff.mp hclasses
  obtain ⟨-, rfl⟩ := dataTypes_eq_ok_iff.mp htypes
  obtain ⟨hname, ms, hms, -⟩ := fetcher_eq_ok_iff.mp hi
  obtain ⟨-, -, hmethods⟩ := methods_eq_ok_iff.mp hms
  simp only [neededNames, List.forall_mem_append, List.forall_mem_flatMap, List.forall_mem_singleton]
  refine ⟨fun d hd => ?_, fun o ho => ?_, hname⟩
  · obtain ⟨c, -, hc⟩ := Outcome.exists_of_forall₂ hall.flip hd
    exact identifiers_of_dataClass hc
  · obtain ⟨m, -, hm⟩ := Outcome.exists_of_forall₂ hmethods.flip ho
    exact identifiers_of_method hm

theorem named_merged (hdoc : doc.Named) :
    ∀ d ∈ merged (definedTypes doc) (extendedTypes doc), d.Named := by
  intro d hd
  refine ⟨?_, fun f hf => ?_⟩
  · obtain ⟨first, hfirst, rfl⟩ := List.mem_map.mp hd
    have hmem : first ∈ definedTypes doc := List.mem_of_find?_eq_some (find?_of_mem_firsts hfirst)
    exact (named_definedTypes hdoc first hmem).name
  · obtain ⟨e, he, hfe⟩ := fields_of_mem_merged hd hf
    rcases List.mem_append.mp he with he | he
    · exact (named_definedTypes hdoc e he).fields f hfe
    · exact (named_extendedTypes hdoc e he).fields f hfe

/-- The names that are needed do not end in a line feed, so that they are checked exactly. -/
theorem isIdentifier_iff_legal_of_needed (hdoc : doc.Named) :
    ∀ u ∈ neededNames doc fileName, (isIdentifier u.2 = true ↔ LegalIdentifier u.2) := by
  have hname : ∀ {s : String}, IsName s → (isIdentifier s = true ↔ LegalIdentifier s) :=
    fun h => isIdentifier_iff_legal (lineEnd_not_last h)
  simp only [neededNames, DataType.uses, DataField.uses, Operation.uses, parameterUses,
    List.forall_mem_append, List.forall_mem_flatMap, List.forall_mem_cons, List.not_mem_nil,
    false_imp_iff, implies_true, and_true]
  refine ⟨fun d hd => ?_, fun o ho => ?_, ?_⟩
  · have hd := named_merged hdoc d hd
    exact ⟨fun f hf => ⟨hname (hd.fields f hf).type, hname (hd.fields f hf).name⟩, hname hd.name⟩
  · have ho := named_operations hdoc o ho
    exact ⟨fun a ha => ⟨hname (ho.arguments a ha).type, hname (ho.arguments a ha).name⟩,
      hname ho.type, hname ho.name⟩
  · exact isIdentifier_iff_legal (by rw [getLast?_fetcherName]; decide)

theorem needed_of_declared (h : artifacts base doc fileName = .ok as) {a : Artifact} (ha : a ∈ as)
    {n : String} (hn : n ∈ declaredNames a) :
    n = environmentParameter.name ∨ ∃ element, (element, n) ∈ neededNames doc fileName := by
  cases standsFor_of_artifacts h ha with
  | @type d c hd hrep =>
    have hneeded : ∀ u ∈ d.uses, u ∈ neededNames doc fileName := fun u hu =>
      List.mem_append_left _ (List.mem_flatMap.mpr ⟨d, hd, hu⟩)
    right
    rcases List.mem_cons.mp hn with rfl | hn
    · exact ⟨"class", hneeded _ (by simp [DataType.uses, hrep.name])⟩
    · obtain ⟨g, hg, rfl⟩ := List.mem_map.mp hn
      obtain ⟨f, hf, hfield⟩ := Outcome.exists_of_forall₂ hrep.fields hg
      refine ⟨"field", hneeded _ (List.mem_append_left _ (List.mem_flatMap.mpr ⟨f, hf, ?_⟩))⟩
      simp [DataField.uses, hfield.name]
  | operations hname _ hserves =>
    rcases List.mem_cons.mp hn with rfl | hn
    · exact .inr ⟨"class", by simp [neededNames, hname]⟩
    · obtain ⟨m, hm, hn⟩ := List.mem_flatMap.mp hn
      obtain ⟨o, ho, hm⟩ := Outcome.exists_of_forall₂ hserves hm
      have hneeded : ∀ u ∈ o.uses, u ∈ neededNames doc fileName := fun u hu =>
        List.mem_append_right _ (List.mem_append_left _ (List.mem_flatMap.mpr ⟨o, ho, hu⟩))
      rcases List.mem_cons.mp hn with rfl | hn
      · exact .inr ⟨"method", hneeded _ (by simp [Operation.uses, hm.name])⟩
      · obtain ⟨ps, hps, hparameters⟩ := hm.parameters
        rw [hparameters, List.map_append, List.mem_append] at hn
        rcases hn with hn | hn
        · obtain ⟨p, hp, rfl⟩ := List.mem_map.mp hn
          obtain ⟨a, ha, hbinds⟩ := Outcome.exists_of_forall₂ hps hp
          refine .inr ⟨"parameter", hneeded _ (List.mem_append_left _ ?_)⟩
          exact List.mem_flatMap.mpr ⟨a, ha, by simp [parameterUses, hbinds.name]⟩
        · exact .inl (List.mem_singleton.mp hn)

theorem IsReference.legal {t : TypeRef} (h : IsReference base t) :
    t ∈ primitiveNames.map .primitive ∨ LegalIdentifier t.simpleName := by
  cases h with
  | primitive h => exact .inl (List.mem_map_of_mem h)
  | library h =>
    have hall : ∀ u ∈ libraryTypes, isIdentifier u.simpleName = true ∧
        u.simpleName.toList.getLast? ≠ some '\n' := by
      decide +kernel
    exact .inr ((isIdentifier_iff_legal (hall t h).2).mp (hall t h).1)
  | dataClass hname h => exact .inr ((isIdentifier_iff_legal (lineEnd_not_last hname)).mp h)

def NamedMembers (a : AnnotationUse) : Prop := ∀ m ∈ a.members, IsName m.name

theorem namedMembers_constraint {d : Directive} (hd : d.Named) {a : AnnotationUse}
    (h : constraint d = .ok a) : NamedMembers a := by
  obtain ⟨ls, hls, h⟩ := Outcome.bind_eq_ok_iff.mp h
  cases h
  intro m hm
  obtain ⟨⟨n, l⟩, hl, rfl⟩ := List.mem_map.mp hm
  obtain ⟨argument, hargument, hname⟩ := List.mem_map.mp (mem_of_literalArguments hls _ hl)
  have hn : argument.1 = n := hname
  exact hn ▸ hd.arguments argument hargument

theorem namedMembers_inputAnnotations (type : TypeExpr) {ds : List Directive}
    (h : ∀ d ∈ ds, d.Named) :
    (inputAnnotations type ds).Gives fun as => ∀ a ∈ as, NamedMembers a :=
  gives_inputAnnotations type (fun _ hm => absurd hm List.not_mem_nil) fun d hd _ _ =>
    namedMembers_constraint (h d hd)

theorem namedMembers_fieldAnnotations {kind : TypeKind} {f : DataField} (hf : f.Named)
    {us : List AnnotationUse} (h : fieldAnnotations kind f = .ok us) :
    ∀ u ∈ us, NamedMembers u := by
  cases kind with
  | input => exact namedMembers_inputAnnotations f.type hf.directives us h
  | object =>
    cases h
    simp

theorem BindsArgument.namedMembers {a : InputValue} {p : Parameter} (h : BindsArgument base a p)
    (ha : a.Named) : ∀ u ∈ p.annotations, NamedMembers u := by
  obtain ⟨us, hus, heq⟩ := h.annotations
  rw [heq, List.forall_mem_append, List.forall_mem_singleton]
  exact ⟨namedMembers_inputAnnotations a.type ha.directives us hus,
    fun _ hm => absurd hm List.not_mem_nil⟩

theorem namedMembers_markers {u : AnnotationUse}
    (h : u ∈ dataClassAnnotations ++ [component, Root.query.marker, Root.mutation.marker]) :
    NamedMembers u := by
  have hmarkers : ∀ v ∈ dataClassAnnotations ++ [component, Root.query.marker, Root.mutation.marker],
      v.members = [] := by decide
  intro m hm
  rw [hmarkers u h] at hm
  cases hm

theorem namedMembers_of_artifacts (hdoc : doc.Named) (h : artifacts base doc fileName = .ok as)
    {a : Artifact} (ha : a ∈ as) : ∀ u ∈ annotationUses a, NamedMembers u := by
  cases standsFor_of_artifacts h ha with
  | @type d c hd hrep =>
    simp only [annotationUses, List.forall_mem_append, List.forall_mem_flatMap]
    refine ⟨fun u hu => ?_, fun g hg => ?_⟩
    · rw [hrep.annotations] at hu
      exact namedMembers_markers (List.mem_append_left _ hu)
    · obtain ⟨f, hf, hfield⟩ := Outcome.exists_of_forall₂ hrep.fields hg
      exact namedMembers_fieldAnnotations ((named_merged hdoc d hd).fields f hf) hfield.annotations
  | operations _ hannotations hserves =>
    simp only [annotationUses, hannotations, List.forall_mem_append, List.forall_mem_flatMap,
      List.forall_mem_singleton]
    refine ⟨namedMembers_markers (by simp), fun m hm => ?_⟩
    obtain ⟨o, ho, hmethod⟩ := Outcome.exists_of_forall₂ hserves hm
    obtain ⟨ps, hps, hparameters⟩ := hmethod.parameters
    rw [hmethod.annotations, hparameters]
    simp only [List.forall_mem_append, List.forall_mem_singleton]
    refine ⟨?_, fun p hp => ?_, fun _ hu => absurd hu List.not_mem_nil⟩
    · cases o.root <;> exact namedMembers_markers (by simp)
    · obtain ⟨b, hb, hbinds⟩ := Outcome.exists_of_forall₂ hps hp
      exact hbinds.namedMembers ((named_operations hdoc o ho).arguments b hb)

theorem legalNames_of_artifacts (hdoc : doc.Named) (h : artifacts base doc fileName = .ok as) :
    ∀ a ∈ as, LegalNames a := by
  intro a ha
  refine ⟨fun n hn => ?_, fun t ht => ?_, fun n hn => ?_⟩
  · rcases needed_of_declared h ha hn with rfl | ⟨element, hneeded⟩
    · exact (isIdentifier_iff_legal (by decide)).mp (by decide)
    · exact (isIdentifier_iff_legal_of_needed hdoc _ hneeded).mp
        (identifiers_of_artifacts h _ hneeded)
  · exact ((written_artifacts hdoc h a ha).references t ht).legal
  · obtain ⟨u, hu, hn⟩ := List.mem_flatMap.mp hn
    obtain ⟨m, hm, rfl⟩ := List.mem_map.mp hn
    exact identifierShape_of_isName (namedMembers_of_artifacts hdoc h ha u hu m hm)

/-- Nothing but its names can keep a document from being built: its types go together, no operation
is there twice and no integer in a directive is too long. -/
structure OtherwiseSound (doc : Document) : Prop where
  types : Consistent (definedTypes doc) (extendedTypes doc)
  operations : ∀ r, ((rootFields r doc).map (·.name)).Nodup
  fields : ShortFields doc
  arguments : ShortArguments doc

theorem mem_of_firstReserved {us : List (String × String)} {u : String × String}
    (h : firstReserved us = some u) : u ∈ us ∧ isIdentifier u.2 = false := by
  unfold firstReserved at h
  have hreserved := List.find?_some h
  refine ⟨List.mem_of_find?_eq_some h, ?_⟩
  rw [isIdentifier, hreserved, Bool.not_true, Bool.and_false]

theorem artifacts_eq_error (hdoc : doc.Named) (hsound : OtherwiseSound doc) {f : Fault}
    (h : artifacts base doc fileName = .error f) :
    ∃ u ∈ neededNames doc fileName, isIdentifier u.2 = false ∧ f = .notIdentifier u.1 u.2 := by
  rcases Outcome.bind_eq_error_iff.mp h with h | ⟨classes, -, h⟩
  · rcases (dataClasses_eq_error_iff hdoc hsound.fields).mp h with hviolation | hreserved
    · have hok := dataTypes_of_consistent hsound.types
      rw [dataTypes_eq_error_iff.mpr hviolation] at hok
      cases hok
    · obtain ⟨-, element, name, hfirst, rfl⟩ := hreserved
      obtain ⟨hmem, hnot⟩ := mem_of_firstReserved hfirst
      exact ⟨_, List.mem_append_left _ hmem, hnot, rfl⟩
  · rcases Outcome.bind_eq_error_iff.mp h with h | ⟨i, -, h⟩
    · rw [fetcher, Traced.outcome_bind] at h
      rcases Outcome.bind_eq_error_iff.mp h with h | ⟨ms, -, h⟩
      · rw [outcome_methods ⟨(nodup_keys_iff doc).mpr hsound.operations, by simp⟩] at h
        obtain ⟨element, name, hfirst, rfl⟩ :=
          (screens_operations hdoc hsound.arguments).eq_error_iff.mp h
        obtain ⟨hmem, hnot⟩ := mem_of_firstReserved hfirst
        exact ⟨_, List.mem_append_right _ (List.mem_append_left _ hmem), hnot, rfl⟩
      · simp only [Traced.outcome_bind, Traced.outcome_silently, requireIdentifier] at h
        split at h
        · cases h
        · rename_i hnot
          cases h
          exact ⟨("class", fetcherName fileName), by simp [neededNames], by simpa using hnot, rfl⟩
    · cases h

/-- Java admits the names in generated files. A document that needs a name that Java does not admit
is refused, and for such a name unless something else is wrong with it. -/
theorem names_of_artifacts {text : List Char} (hparse : Document.parse text = .ok doc)
    (base fileName : String) :
    (∀ as, artifacts base doc fileName = .ok as → ∀ a ∈ as, LegalNames a) ∧
    ((∃ u ∈ neededNames doc fileName, ¬ LegalIdentifier u.2) →
      ∃ f, artifacts base doc fileName = .error f ∧
        (OtherwiseSound doc → ∃ u ∈ neededNames doc fileName,
          ¬ LegalIdentifier u.2 ∧ f = .notIdentifier u.1 u.2)) := by
  have hdoc := Document.named_of_parse hparse
  refine ⟨fun as h => legalNames_of_artifacts hdoc h, fun ⟨u, hu, hillegal⟩ => ?_⟩
  cases h : artifacts base doc fileName with
  | ok as =>
    exact absurd ((isIdentifier_iff_legal_of_needed hdoc u hu).mp (identifiers_of_artifacts h u hu))
      hillegal
  | error f =>
    refine ⟨f, rfl, fun hsound => ?_⟩
    obtain ⟨v, hv, hnot, rfl⟩ := artifacts_eq_error hdoc hsound h
    refine ⟨v, hv, fun hlegal => ?_, rfl⟩
    rw [(isIdentifier_iff_legal_of_needed hdoc v hv).mpr hlegal] at hnot
    cases hnot

end Names

def reservedElementText : List Char := "input A \x7b a: Int @Size(class: 1) \x7d".toList

def reservedElementDocument : Document :=
  ⟨[.typeSystem (.input ⟨none, "A", [],
    [⟨none, "a", .named "Int", none, [⟨"Size", [("class", .int "1")]⟩]⟩]⟩)]⟩

def reservedElementArtifacts : List Artifact :=
  [.ofClass ⟨"p.types", "A", dataClassAnnotations,
      [⟨"a", .primitive "int", [⟨.inPackage validationPackage "Size", [⟨"class", "1"⟩]⟩]⟩],
      some "a.graphqls"⟩,
    .ofInterface ⟨"p.fetchers", "AFetcher", [component], [], some "a.graphqls"⟩]

theorem parse_reservedElementText :
    Document.parse reservedElementText = .ok reservedElementDocument := by
  cbv

theorem artifacts_reservedElementDocument :
    artifacts "p" reservedElementDocument "a.graphqls" = .ok reservedElementArtifacts := by
  cbv

def repeatedFieldText : List Char := "type A \x7b class: Int class: Int \x7d".toList

def repeatedFieldDocument : Document :=
  ⟨[.typeSystem (.object ⟨none, "A", [], [],
    [⟨none, "class", [], .named "Int", []⟩, ⟨none, "class", [], .named "Int", []⟩]⟩)]⟩

/-- The names of primitive types and of the values in annotations may be reserved; and a document
that needs a reserved name may be refused for another reason. -/
theorem reserved_names :
    isPackageName "p" = true ∧
      Document.parse reservedElementText = .ok reservedElementDocument ∧
      artifacts "p" reservedElementDocument "a.graphqls" = .ok reservedElementArtifacts ∧
      (∃ a ∈ reservedElementArtifacts, ∃ t ∈ a.references, t.simpleName ∈ reservedWords) ∧
      (∃ a ∈ reservedElementArtifacts, ∃ n ∈ elementNames a, n ∈ reservedWords) ∧
      Document.parse repeatedFieldText = .ok repeatedFieldDocument ∧
      (∃ u ∈ neededNames repeatedFieldDocument "a.graphqls", u.2 ∈ reservedWords) ∧
      artifacts "p" repeatedFieldDocument "a.graphqls" = .error (.duplicateField "A" "class") := by
  refine ⟨by decide, parse_reservedElementText, artifacts_reservedElementDocument, ?_, ?_, by cbv,
    ⟨("field", "class"), by decide, by decide⟩, by cbv⟩
  · exact ⟨_, List.mem_cons_self, .primitive "int", by decide, by decide⟩
  · exact ⟨_, List.mem_cons_self, "class", by decide, by decide⟩

theorem names_reservedElementDocument :
    Document.parse reservedElementText = .ok reservedElementDocument ∧
      (∀ a ∈ reservedElementArtifacts, LegalNames a) ∧
      Document.parse reservedFieldText = .ok reservedFieldDocument ∧
      OtherwiseSound reservedFieldDocument ∧
      ∃ u ∈ neededNames reservedFieldDocument "a.graphqls", ¬ LegalIdentifier u.2 ∧
        artifacts "p" reservedFieldDocument "a.graphqls" = .error (.notIdentifier u.1 u.2) := by
  obtain ⟨haccepted, -⟩ := names_of_artifacts parse_reservedElementText "p" "a.graphqls"
  obtain ⟨-, hrefused⟩ := names_of_artifacts parse_reservedFieldText "p" "a.graphqls"
  have hsound : OtherwiseSound reservedFieldDocument := by
    refine ⟨by decide, fun r => ?_, shortFields_reservedFieldDocument, fun r f hf => ?_⟩
    · cases r <;> decide
    · cases r <;> cases hf
  obtain ⟨f, herror, hname⟩ := hrefused
    ⟨("field", "class"), by decide, fun h => h.notReserved (by decide)⟩
  obtain ⟨u, hu, hillegal, rfl⟩ := hname hsound
  exact ⟨parse_reservedElementText, haccepted _ artifacts_reservedElementDocument,
    parse_reservedFieldText, hsound, u, hu, hillegal, herror⟩

end SchemaToJava.Emission
