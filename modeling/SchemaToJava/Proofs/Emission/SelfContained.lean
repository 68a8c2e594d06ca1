import SchemaToJava.Proofs.Emission.Contents
import SchemaToJava.Proofs.Emission.Written

/-!
Documents that need nothing from elsewhere. If every type that a document uses is a builtin scalar or
is defined in it, then generated files refer to no data class but those generated with them. Types
that are called like a root type never have a data class, and nothing is said of these.
-/

namespace SchemaToJava.Emission

open GraphQL Java

/-- The type names that a definition uses: those of its fields and, where these are operations, those
of their arguments. -/
def typesUsedBy : Definition → List String
  | .typeSystem item => ofItem item
  | .extension item => ofItem item
  | _ => []
where
  ofItem : TypeSystemItem → List String
    | .object t => t.fields.map (·.type.base) ++
        if isRootName t.name then t.fields.flatMap fun f => f.arguments.map (·.type.base) else []
    | .input t => t.fields.map (·.type.base)
    | _ => []

def definedName? : Definition → Option String
  | .typeSystem (.object t) => some t.name
  | .typeSystem (.input t) => some t.name
  | _ => none

/-- Every type that is used is a builtin scalar or is defined in the document. -/
def SelfContained (doc : Document) : Prop :=
  ∀ n ∈ doc.definitions.flatMap typesUsedBy,
    isBuiltinScalar n = true ∨ n ∈ doc.definitions.filterMap definedName?

instance (doc : Document) : Decidable (SelfContained doc) := by
  unfold SelfContained
  infer_instance

theorem used_of_contribution? {i : TypeSystemItem} {d : DataType} (h : contribution? i = some d)
    {f : DataField} (hf : f ∈ d.fields) : f.type.base ∈ typesUsedBy.ofItem i := by
  unfold contribution? at h
  split at h
  · split at h
    · cases h
    · cases h
      obtain ⟨g, hg, rfl⟩ := List.mem_map.mp hf
      exact List.mem_append_left _ (List.mem_map_of_mem hg)
  · split at h
    · cases h
    · cases h
      obtain ⟨g, hg, rfl⟩ := List.mem_map.mp hf
      exact List.mem_map_of_mem hg
  · cases h

theorem used_of_merged {doc : Document} {d : DataType}
    (hd : d ∈ merged (definedTypes doc) (extendedTypes doc)) {f : DataField} (hf : f ∈ d.fields) :
    f.type.base ∈ doc.definitions.flatMap typesUsedBy := by
  obtain ⟨e, he, hfe⟩ := fields_of_mem_merged hd hf
  rw [List.mem_flatMap]
  rcases List.mem_append.mp he with he | he
  · obtain ⟨x, hx, hsome⟩ := List.mem_filterMap.mp he
    refine ⟨x, hx, ?_⟩
    split at hsome
    · exact used_of_contribution? hsome hfe
    · cases hsome
  · obtain ⟨x, hx, hsome⟩ := List.mem_filterMap.mp he
    refine ⟨x, hx, ?_⟩
    split at hsome
    · exact used_of_contribution? hsome hfe
    · cases hsome

theorem used_of_operation {doc : Document} {o : Operation} (ho : o ∈ operations doc) {n : String}
    (hn : n = o.field.type.base ∨ n ∈ o.field.arguments.map (·.type.base)) :
    n ∈ doc.definitions.flatMap typesUsedBy := by
  rw [operations_eq] at ho
  obtain ⟨x, hx, ho⟩ := List.mem_flatMap.mp ho
  refine List.mem_flatMap.mpr ⟨x, hx, ?_⟩
  have hobject : ∀ t : ObjectType, o ∈ operationsOf (.typeSystem (.object t)) →
      n ∈ typesUsedBy.ofItem (.object t) := by
    intro t ho
    rw [operationsOf_object] at ho
    have hroot : isRootName t.name = true ∧ o.field ∈ t.fields := by
      rw [isRootName_eq]
      split at ho
      · rename_i r hr
        obtain ⟨f, hf, rfl⟩ := List.mem_map.mp ho
        exact ⟨by rw [hr]; rfl, hf⟩
      · cases ho
    rw [typesUsedBy.ofItem, if_pos hroot.1]
    rcases hn with rfl | hn
    · exact List.mem_append_left _ (List.mem_map_of_mem hroot.2)
    · exact List.mem_append_right _ (List.mem_flatMap.mpr ⟨_, hroot.2, hn⟩)
  -- Only object types, defined or extended, have operations.
  cases x with
  | operation name => cases ho
  | fragment name => cases ho
  | typeSystem item =>
    cases item with
    | object t => exact hobject t ho
    | _ => cases ho
  | extension item =>
    rw [operationsOf_extension] at ho
    cases item with
    | object t => exact hobject t ho
    | _ => cases ho

theorem mem_definedTypes {doc : Document} {i : TypeSystemItem} (hi : .typeSystem i ∈ doc.definitions)
    {d : DataType} (hd : contribution? i = some d) : d ∈ definedTypes doc :=
  List.mem_filterMap.mpr ⟨_, hi, hd⟩

/-- What is defined contributes to classes, unless it is called like a root type. -/
theorem exists_definedType {doc : Document} {n : String}
    (h : n ∈ doc.definitions.filterMap definedName?) (hroot : isRootName n = false) :
    ∃ d ∈ definedTypes doc, d.name = n := by
  obtain ⟨x, hx, hname⟩ := List.mem_filterMap.mp h
  unfold definedName? at hname
  split at hname
  · cases hname
    exact ⟨_, mem_definedTypes hx (if_neg (by simp [hroot])), rfl⟩
  · cases hname
    exact ⟨_, mem_definedTypes hx (if_neg (by simp [hroot])), rfl⟩
  · cases hname

theorem exists_class {base : String} {doc : Document} {source : Option String}
    {classes : List ClassDecl} (h : (dataClasses base doc source).outcome = .ok classes)
    {d : DataType} (hd : d ∈ definedTypes doc) :
    ∃ c ∈ classes, (Artifact.ofClass c).typeRef = .inPackage (typesPackage base) d.name ∧
      ∀ f ∈ d.fields, f.name ∈ c.fields.map (·.name) := by
  obtain ⟨hconsistent, hall⟩ := represents_of_dataClasses h
  obtain ⟨first, hfind, hkind⟩ := hconsistent.exists_first hd rfl
  obtain ⟨hfirst, hname⟩ := mem_firsts_of_find? hfind
  obtain ⟨c, hc, hrep⟩ := Outcome.exists_of_forall₂ hall.flip (List.mem_map_of_mem hfirst)
  have hrep : Represents base source (complete (definedTypes doc) (extendedTypes doc) first) c := hrep
  refine ⟨c, hc, ?_, fun f hf => ?_⟩
  · rw [Artifact.typeRef, Artifact.package, Artifact.name, hrep.package, hrep.name]
    exact congrArg _ hname
  · have hgathered : f ∈ gathered (definedTypes doc) (extendedTypes doc) first.name first.kind :=
      List.mem_append_left _ (List.mem_flatMap.mpr
        ⟨d, List.mem_filter.mpr ⟨hd, decide_eq_true hname.symm⟩, hf⟩)
    obtain ⟨g, hg, hfield⟩ := Outcome.exists_of_forall₂ hrep.fields.flip hgathered
    exact List.mem_map.mpr ⟨g, hg, RepresentsField.name hfield⟩

theorem javaType_eq_of_package {base n : String} {t : TypeRef} (h : javaType base n = .ok t)
    (hp : t.package = some (typesPackage base)) :
    isBuiltinScalar n = false ∧ t = .inPackage (typesPackage base) n := by
  have hscalars : ∀ e ∈ builtinScalars, e.2 ∈ libraryTypes ∨ e.2.package = none := by decide
  rcases eq_of_javaType h with hmem | ⟨hscalar, -, heq⟩
  · rcases hscalars (n, t) hmem with ht | ht
    · exact absurd hp (library_package_ne_types base ht)
    · rw [show t.package = none from ht] at hp
      cases hp
  · exact ⟨hscalar, heq⟩

theorem library_constraint {d : Directive} (hname : d.name ∈ catalogue) {a : AnnotationUse}
    (h : constraint d = .ok a) : a.type ∈ libraryTypes := by
  obtain ⟨ls, -, h⟩ := Outcome.bind_eq_ok_iff.mp h
  cases h
  exact List.mem_append_right _ (List.mem_map_of_mem hname)

theorem library_inputAnnotations (type : TypeExpr) (ds : List Directive) :
    (inputAnnotations type ds).Gives fun as => ∀ a ∈ as, a.type ∈ libraryTypes :=
  gives_inputAnnotations type (by decide) fun _ _ hname _ => library_constraint hname

theorem library_fieldAnnotations {kind : TypeKind} {f : DataField} {as : List AnnotationUse}
    (h : fieldAnnotations kind f = .ok as) : ∀ a ∈ as, a.type ∈ libraryTypes := by
  cases kind with
  | input => exact library_inputAnnotations f.type f.directives as h
  | object =>
    cases h
    simp

theorem BindsArgument.library_annotations {base : String} {a : InputValue} {p : Parameter}
    (h : BindsArgument base a p) : ∀ b ∈ p.annotations, b.type ∈ libraryTypes := by
  obtain ⟨as, has, heq⟩ := h.annotations
  intro b hb
  rw [heq] at hb
  rcases List.mem_append.mp hb with hb | hb
  · exact library_inputAnnotations a.type a.directives as has b hb
  · rw [List.mem_singleton.mp hb]
    decide

section References

variable {base : String} {t : TypeRef}

theorem library_of_mem {as : List AnnotationUse} (h : ∀ a ∈ as, a.type ∈ libraryTypes)
    (ht : t ∈ as.map (·.type)) : t ∈ libraryTypes := by
  obtain ⟨a, ha, rfl⟩ := List.mem_map.mp ht
  exact h a ha

theorem Represents.mem_references {source : Option String} {d : DataType} {c : ClassDecl}
    (h : Represents base source d c) (ht : t ∈ (Artifact.ofClass c).references) :
    t ∈ libraryTypes ∨ ∃ f ∈ d.fields, javaType base f.type.base = .ok t := by
  rcases List.mem_append.mp ht with ht | ht
  · left
    rw [h.annotations] at ht
    exact library_of_mem (by decide) ht
  · obtain ⟨g, hg, ht⟩ := List.mem_flatMap.mp ht
    obtain ⟨f, hf, hfield⟩ := Outcome.exists_of_forall₂ h.fields hg
    rcases List.mem_append.mp ht with ht | ht
    · exact .inl (library_of_mem (library_fieldAnnotations hfield.annotations) ht)
    · rw [List.mem_singleton.mp ht]
      exact .inr ⟨f, hf, hfield.type⟩

theorem Serves.mem_references {o : Operation} {m : MethodDecl} (h : Serves base o m)
    (ht : t ∈ m.references) :
    t ∈ libraryTypes ∨ ∃ n, (n = o.field.type.base ∨ n ∈ o.field.arguments.map (·.type.base)) ∧
      javaType base n = .ok t := by
  rcases List.mem_append.mp ht with ht | ht
  · left
    rw [h.annotations] at ht
    exact library_of_mem (by cases o.root <;> decide) ht
  · rcases List.mem_cons.mp ht with rfl | ht
    · exact .inr ⟨_, .inl rfl, h.returnType⟩
    · obtain ⟨p, hmem, ht⟩ := List.mem_flatMap.mp ht
      obtain ⟨ps, hps, hparameters⟩ := h.parameters
      rw [hparameters] at hmem
      rcases List.mem_append.mp hmem with hmem | hmem
      · obtain ⟨a, ha, hbinds⟩ := Outcome.exists_of_forall₂ hps hmem
        rcases List.mem_append.mp ht with ht | ht
        · exact .inl (library_of_mem hbinds.library_annotations ht)
        · rw [List.mem_singleton.mp ht]
          exact .inr ⟨_, .inr (List.mem_map_of_mem ha), hbinds.type⟩
      · rw [List.mem_singleton.mp hmem, Parameter.references] at ht
        have hlibrary : environmentParameter.type ∈ libraryTypes := by decide
        rw [List.mem_singleton.mp ht]
        exact .inl hlibrary

/-- Whatever a file refers to is of a library or is the type for a name that the document uses. -/
theorem StandsFor.mem_references {doc : Document} {fileName : String} {source : Option String}
    {a : Artifact} (h : StandsFor base doc fileName source a) (ht : t ∈ a.references) :
    t ∈ libraryTypes ∨ ∃ n ∈ doc.definitions.flatMap typesUsedBy, javaType base n = .ok t := by
  cases h with
  | type hd hrep =>
    rcases hrep.mem_references ht with ht | ⟨f, hf, htype⟩
    · exact .inl ht
    · exact .inr ⟨_, used_of_merged hd hf, htype⟩
  | operations _ hannotations hserves =>
    rcases List.mem_append.mp ht with ht | ht
    · left
      rw [hannotations] at ht
      exact library_of_mem (by decide) ht
    · obtain ⟨m, hm, ht⟩ := List.mem_flatMap.mp ht
      obtain ⟨o, ho, hmethod⟩ := Outcome.exists_of_forall₂ hserves hm
      rcases hmethod.mem_references ht with ht | ⟨n, hn, htype⟩
      · exact .inl ht
      · exact .inr ⟨n, used_of_operation ho hn, htype⟩

end References

section Documents

variable {base fileName : String} {source : Option String} {doc : Document}
  {classes : List ClassDecl} {i : InterfaceDecl}

theorem used_of_reference (hclasses : (dataClasses base doc source).outcome = .ok classes)
    (hi : (fetcher base doc fileName).outcome = .ok i) {a : Artifact}
    (ha : a ∈ classes.map .ofClass ++ [.ofInterface i]) {t : TypeRef} (ht : t ∈ a.references)
    (hp : t.package = some (typesPackage base)) :
    t.simpleName ∈ doc.definitions.flatMap typesUsedBy ∧
      isBuiltinScalar t.simpleName = false ∧ t = .inPackage (typesPackage base) t.simpleName := by
  have huse : ∃ n ∈ doc.definitions.flatMap typesUsedBy, javaType base n = .ok t :=
    ((standsFor_of_built hclasses hi ha).mem_references ht).resolve_left fun hlibrary =>
      library_package_ne_types base hlibrary hp
  obtain ⟨n, hn, htype⟩ := huse
  obtain ⟨hscalar, rfl⟩ := javaType_eq_of_package htype hp
  exact ⟨hn, hscalar, rfl⟩

/-- The files of a self-contained document refer to no class of the types' package but those that are
generated with them, unless by the name of a root type; and an input type that is not called so has
its class. -/
theorem references_of_selfContained (hdoc : SelfContained doc)
    (hclasses : (dataClasses base doc source).outcome = .ok classes)
    (hi : (fetcher base doc fileName).outcome = .ok i) :
    (∀ a ∈ classes.map Artifact.ofClass ++ [.ofInterface i], ∀ t ∈ a.references,
      t.package = some (typesPackage base) → isRootName t.simpleName = false →
        ∃ c ∈ classes, (Artifact.ofClass c).typeRef = t) ∧
    ∀ t, .typeSystem (.input t) ∈ doc.definitions → isRootName t.name = false →
      ∃ c ∈ classes, (Artifact.ofClass c).typeRef = .inPackage (typesPackage base) t.name ∧
        ∀ f ∈ t.fields, f.name ∈ c.fields.map (·.name) := by
  refine ⟨fun a ha t ht hp hroot => ?_, fun t ht hroot => ?_⟩
  · obtain ⟨hused, hscalar, heq⟩ := used_of_reference hclasses hi ha ht hp
    rcases hdoc _ hused with h | h
    · rw [hscalar] at h
      cases h
    · obtain ⟨d, hd, hname⟩ := exists_definedType h hroot
      obtain ⟨c, hc, href, -⟩ := exists_class hclasses hd
      exact ⟨c, hc, by rw [href, hname, ← heq]⟩
  · have hd := mem_definedTypes ht (if_neg (by simp [hroot]))
    obtain ⟨c, hc, href, hfields⟩ := exists_class hclasses hd
    exact ⟨c, hc, href, fun f hf => hfields _ (List.mem_map_of_mem hf)⟩

end Documents

def rootNamesText : List Char :=
  ("type Query \x7b a(i: I): A again: Query \x7d type A \x7b q: Query \x7d " ++
    "input I \x7b n: Int \x7d input Mutation \x7b n: Int \x7d").toList

def rootNamesDocument : Document :=
  ⟨[.typeSystem (.object ⟨none, "Query", [], [],
      [⟨none, "a", [⟨none, "i", .named "I", none, []⟩], .named "A", []⟩,
        ⟨none, "again", [], .named "Query", []⟩]⟩),
    .typeSystem (.object ⟨none, "A", [], [], [⟨none, "q", [], .named "Query", []⟩]⟩),
    .typeSystem (.input ⟨none, "I", [], [⟨none, "n", .named "Int", none, []⟩]⟩),
    .typeSystem (.input ⟨none, "Mutation", [], [⟨none, "n", .named "Int", none, []⟩]⟩)]⟩

def rootNamesClasses : List ClassDecl :=
  [⟨"p.types", "A", dataClassAnnotations, [⟨"q", .inPackage "p.types" "Query", []⟩],
      some "a.graphqls"⟩,
    ⟨"p.types", "I", dataClassAnnotations, [⟨"n", .primitive "int", []⟩], some "a.graphqls"⟩]

def rootNamesInterface : InterfaceDecl :=
  ⟨"p.fetchers", "AFetcher", [component],
    [⟨"a", .inPackage "p.types" "A", [Root.query.marker],
        [⟨"i", .inPackage "p.types" "I", [inputArgument]⟩, environmentParameter]⟩,
      ⟨"again", .inPackage "p.types" "Query", [Root.query.marker], [environmentParameter]⟩],
    some "a.graphqls"⟩

theorem dataClasses_rootNamesDocument :
    (dataClasses "p" rootNamesDocument (some "a.graphqls")).outcome = .ok rootNamesClasses := by
  cbv

theorem fetcher_rootNamesDocument :
    (fetcher "p" rootNamesDocument "a.graphqls").outcome = .ok rootNamesInterface := by
  cbv

/-- Its files refer to a class that there is not, and one of its input types has no class. -/
theorem dangling_references :
    isPackageName "p" = true ∧ Document.parse rootNamesText = .ok rootNamesDocument ∧
      SelfContained rootNamesDocument ∧
      (dataClasses "p" rootNamesDocument (some "a.graphqls")).outcome = .ok rootNamesClasses ∧
      (fetcher "p" rootNamesDocument "a.graphqls").outcome = .ok rootNamesInterface ∧
      (∃ t ∈ (Artifact.ofInterface rootNamesInterface).references,
        t.package = some (typesPackage "p") ∧
          ∀ c ∈ rootNamesClasses, (Artifact.ofClass c).typeRef ≠ t) ∧
      ∃ t, .typeSystem (.input t) ∈ rootNamesDocument.definitions ∧
        ∀ c ∈ rootNamesClasses, c.name ≠ t.name := by
  refine ⟨by decide, by cbv, by decide, dataClasses_rootNamesDocument, fetcher_rootNamesDocument,
    ⟨.inPackage "p.types" "Query", by decide, by decide, by decide⟩, ?_⟩
  exact ⟨⟨none, "Mutation", [], [⟨none, "n", .named "Int", none, []⟩]⟩,
    by simp [rootNamesDocument], by decide⟩

theorem references_rootNamesDocument :
    SelfContained rootNamesDocument ∧
      (dataClasses "p" rootNamesDocument (some "a.graphqls")).outcome = .ok rootNamesClasses ∧
      (fetcher "p" rootNamesDocument "a.graphqls").outcome = .ok rootNamesInterface ∧
      (∀ a ∈ rootNamesClasses.map Artifact.ofClass ++ [.ofInterface rootNamesInterface],
        ∀ t ∈ a.references, t.package = some (typesPackage "p") →
          isRootName t.simpleName = false →
            ∃ c ∈ rootNamesClasses, (Artifact.ofClass c).typeRef = t) ∧
      ∀ t, .typeSystem (.input t) ∈ rootNamesDocument.definitions → isRootName t.name = false →
        ∃ c ∈ rootNamesClasses, (Artifact.ofClass c).typeRef = .inPackage (typesPackage "p") t.name ∧
          ∀ f ∈ t.fields, f.name ∈ c.fields.map (·.name) := by
  have hself : SelfContained rootNamesDocument := by decide
  exact ⟨hself, dataClasses_rootNamesDocument, fetcher_rootNamesDocument,
    references_of_selfContained hself dataClasses_rootNamesDocument fetcher_rootNamesDocument⟩

end SchemaToJava.Emission
