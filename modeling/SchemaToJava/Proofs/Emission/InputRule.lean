import SchemaToJava.Proofs.Emission.Constraint
import SchemaToJava.Proofs.Emission.Faults
import SchemaToJava.Proofs.Emission.Written

/-!
One rule for what comes in. An input value becomes a field of a data class or a parameter of a method;
both have the same name, type and checks, or are refused for the same reason.
-/

namespace SchemaToJava.Emission

open GraphQL Java

def fieldOf (a : InputValue) : DataField := ⟨a.name, a.type, a.directives⟩

def parameterLike (f : FieldDecl) : Parameter := ⟨f.name, f.type, f.annotations ++ [inputArgument]⟩

def parameterFault : Fault → Fault
  | .notIdentifier element name =>
    .notIdentifier (if element = "field" then "parameter" else element) name
  | f => f

example : (parameterFault (.notIdentifier "field" "class")).message =
    "Not a valid Java identifier for parameter: 'class'" := by rfl

/-- The field has the name, the type and the checks of the input value. -/
structure ChecksInput (base : String) (a : InputValue) (f : FieldDecl) : Prop where
  name : f.name = a.name
  type : javaType base a.type.base = .ok f.type
  required : notNull ∈ f.annotations ↔ ∃ t, a.type = .nonNull t
  annotations : ∃ as, (constraints a.directives).outcome = .ok as ∧
    f.annotations = if a.type.isNonNull then notNull :: as else as

theorem notNull_notMem_constraints {ds : List Directive} {as : List AnnotationUse}
    (h : (constraints ds).outcome = .ok as) : notNull ∉ as := by
  have hother : (constraints ds).Gives fun as => ∀ a ∈ as, a ≠ notNull := by
    refine gives_constraints fun d _ hname a ha => ?_
    obtain ⟨ls, -, ha⟩ := Outcome.bind_eq_ok_iff.mp ha
    cases ha
    intro heq
    have hd : d.name = "NotNull" := congrArg (·.type.simpleName) heq
    rw [hd] at hname
    exact absurd hname (by decide)
  exact fun hmem => hother as h notNull hmem rfl

theorem checksInput_of_dataClassField {base : String} {a : InputValue} {f : FieldDecl}
    (h : (dataClassField base .input (fieldOf a)).outcome = .ok f) : ChecksInput base a f := by
  obtain ⟨-, type, annotations, htype, hannotations, rfl⟩ := dataClassField_eq_ok_iff.mp h
  obtain ⟨as, has, rfl⟩ := inputAnnotations_eq_ok_iff.mp hannotations
  refine ⟨rfl, htype, ?_, as, has, rfl⟩
  have hnone := notNull_notMem_constraints has
  cases ht : a.type <;> simp [fieldOf, ht, TypeExpr.isNonNull, hnone]

/-- An argument is refused exactly if the field would be, and for the same reason. -/
theorem outcome_parameter (base : String) (a : InputValue) :
    (parameter base a).outcome =
      ((dataClassField base .input (fieldOf a)).outcome.map parameterLike).mapError
        parameterFault := by
  rw [outcome_dataClassField, parameter]
  simp only [Traced.outcome_bind, Traced.outcome_silently, Traced.outcome_pure, fieldAnnotations,
    fieldOf]
  cases htype : javaType base a.type.base with
  | error e =>
    obtain rfl := javaType_fault htype
    rfl
  | ok type =>
    cases hannotations : (inputAnnotations a.type a.directives).outcome with
    | error e =>
      obtain ⟨i, rfl⟩ :=
        (constraints_within a.directives).fault e (inputAnnotations_eq_error_iff.mp hannotations)
      rfl
    | ok annotations =>
      cases hname : isIdentifier a.name <;> simp only [requireIdentifier, hname] <;> rfl

theorem dataClassField_object_of_input_ok {base : String} {a : InputValue} {f : FieldDecl}
    (h : (dataClassField base .input (fieldOf a)).outcome = .ok f) :
    (dataClassField base .object (fieldOf a)).outcome = .ok { f with annotations := [] } := by
  obtain ⟨hname, type, annotations, htype, -, rfl⟩ := dataClassField_eq_ok_iff.mp h
  exact dataClassField_eq_ok_iff.mpr ⟨hname, type, [], htype, rfl, rfl⟩

/-- Only the directives can keep a field from an input type that an object type can have. -/
theorem dataClassField_object_of_input_error {base : String} {a : InputValue} {e : Fault}
    (h : (dataClassField base .input (fieldOf a)).outcome = .error e) :
    (dataClassField base .object (fieldOf a)).outcome = .error e ∨
      (constraints a.directives).outcome = .error e := by
  rw [outcome_dataClassField] at h ⊢
  rcases Outcome.bind_eq_error_iff.mp h with htype | ⟨type, htype, h⟩
  · exact .inl (Outcome.bind_eq_error_iff.mpr (.inl htype))
  rcases Outcome.bind_eq_error_iff.mp h with hannotations | ⟨annotations, -, h⟩
  · exact .inr (inputAnnotations_eq_error_iff.mp hannotations)
  rcases Outcome.bind_eq_error_iff.mp h with hname | ⟨_, -, h⟩
  · refine .inl (Outcome.bind_eq_error_iff.mpr (.inr ⟨type, htype, ?_⟩))
    exact Outcome.bind_eq_error_iff.mpr (.inr ⟨[], rfl, Outcome.bind_eq_error_iff.mpr (.inl hname)⟩)
  · cases h

def typeDocument (kind : TypeKind) (type : String) (a : InputValue) : Document :=
  match kind with
  | .input => ⟨[.typeSystem (.input ⟨none, type, [], [a]⟩)]⟩
  | .object =>
    ⟨[.typeSystem (.object ⟨none, type, [], [],
      [⟨a.description, a.name, [], a.type, a.directives⟩]⟩)]⟩

def operationDocument (r : Root) (o : Field) (a : InputValue) : Document :=
  ⟨[.typeSystem (.object ⟨none, r.name, [], [], [{ o with arguments := [a] }]⟩)]⟩

def classWith (base type : String) (source : Option String) (f : FieldDecl) : ClassDecl :=
  ⟨typesPackage base, type, dataClassAnnotations, [f], source⟩

def fetcherWith (base fileName : String) (r : Root) (name : String) (result : TypeRef)
    (p : Parameter) : InterfaceDecl :=
  ⟨fetchersPackage base, fetcherName fileName, [component],
    [⟨name, result, [r.marker], [p, environmentParameter]⟩], some fileName⟩

theorem dataTypes_typeDocument {type : String} (h : isRootName type = false) (kind : TypeKind)
    (a : InputValue) :
    dataTypes (typeDocument kind type a) = pure [⟨type, kind, [fieldOf a]⟩] := by
  have hdefined : definedTypes (typeDocument kind type a) = [⟨type, kind, [fieldOf a]⟩] := by
    cases kind <;> simp [definedTypes, typeDocument, contribution?, h, fieldOf]
  have hextended : extendedTypes (typeDocument kind type a) = [] := by
    cases kind <;> rfl
  rw [dataTypes, hdefined, hextended]
  rfl

theorem dataClasses_typeDocument {type : String} (htype : isIdentifier type = true)
    (hdata : isRootName type = false) (base : String) (kind : TypeKind) (a : InputValue)
    (source : Option String) :
    (dataClasses base (typeDocument kind type a) source).outcome =
      (dataClassField base kind (fieldOf a)).outcome.map fun f => [classWith base type source f] := by
  have hname : requireIdentifier "class" type = .ok type := if_pos htype
  simp only [dataClasses, dataTypes_typeDocument hdata, pure_bind, dataClass, List.mapM_cons,
    List.mapM_nil, Traced.outcome_bind, Traced.outcome_silently, Traced.outcome_pure,
    Traced.outcome_note, hname]
  cases (dataClassField base kind (fieldOf a)).outcome <;> rfl

theorem operations_operationDocument (r : Root) (o : Field) (a : InputValue) :
    operations (operationDocument r o a) = [⟨r, { o with arguments := [a] }⟩] := by
  cases r <;> rfl

theorem fetcher_operationDocument (base : String) (r : Root) {o : Field}
    (ho : isIdentifier o.name = true) {result : TypeRef}
    (hresult : javaType base o.type.base = .ok result) (a : InputValue) {fileName : String}
    (hfile : isIdentifier (fetcherName fileName) = true) :
    (fetcher base (operationDocument r o a) fileName).outcome =
      (parameter base a).outcome.map (fetcherWith base fileName r o.name result) := by
  have hmethod : requireIdentifier "method" o.name = .ok o.name := if_pos ho
  have hname : requireIdentifier "class" (fetcherName fileName) = .ok (fetcherName fileName) :=
    if_pos hfile
  simp only [fetcher, operations_operationDocument, methods, method, List.contains_nil,
    Bool.false_eq_true, if_false, List.mapM_cons, List.mapM_nil, Traced.outcome_bind,
    Traced.outcome_silently, Traced.outcome_pure, Traced.outcome_note, hmethod, hresult, hname]
  cases (parameter base a).outcome <;> rfl

/-- A field of an input type and an argument of an operation come from an input value alike: they have
the same name, type and checks, or are refused for the same reason. As a field of an object type the
value has the same name and type, and no checks. -/
theorem inputs_alike (base : String) (a : InputValue) (source : Option String) (r : Root)
    {type : String} (htype : isIdentifier type = true) (hdata : isRootName type = false)
    {o : Field} (ho : isIdentifier o.name = true) {result : TypeRef}
    (hresult : javaType base o.type.base = .ok result) {fileName : String}
    (hfile : isIdentifier (fetcherName fileName) = true) :
    ((∃ f, ChecksInput base a f ∧
        (dataClasses base (typeDocument .input type a) source).outcome =
          .ok [classWith base type source f] ∧
        (fetcher base (operationDocument r o a) fileName).outcome =
          .ok (fetcherWith base fileName r o.name result (parameterLike f)) ∧
        (dataClasses base (typeDocument .object type a) source).outcome =
          .ok [classWith base type source { f with annotations := [] }]) ∨
      ∃ e, (dataClasses base (typeDocument .input type a) source).outcome = .error e ∧
        (fetcher base (operationDocument r o a) fileName).outcome = .error (parameterFault e) ∧
        ((dataClasses base (typeDocument .object type a) source).outcome = .error e ∨
          (constraints a.directives).outcome = .error e)) ∧
    ∀ classes, (dataClasses base (typeDocument .object type a) source).outcome = .ok classes ↔
      isIdentifier a.name = true ∧ ∃ t, javaType base a.type.base = .ok t ∧
        classes = [classWith base type source ⟨a.name, t, []⟩] := by
  rw [dataClasses_typeDocument htype hdata, dataClasses_typeDocument htype hdata,
    fetcher_operationDocument base r ho hresult a hfile, outcome_parameter]
  constructor
  · cases h : (dataClassField base .input (fieldOf a)).outcome with
    | ok f =>
      refine .inl ⟨f, checksInput_of_dataClassField h, rfl, rfl, ?_⟩
      rw [dataClassField_object_of_input_ok h]
      rfl
    | error e =>
      refine .inr ⟨e, rfl, rfl, (dataClassField_object_of_input_error h).imp_left fun hobject => ?_⟩
      rw [hobject]
      rfl
  · intro classes
    rw [Outcome.map_eq_ok_iff]
    simp only [dataClassField_eq_ok_iff, fieldAnnotations, Except.ok.injEq]
    constructor
    · rintro ⟨f, ⟨hname, t, _, ht, rfl, rfl⟩, rfl⟩
      exact ⟨hname, t, ht, rfl⟩
    · rintro ⟨hname, t, ht, rfl⟩
      exact ⟨_, ⟨hname, t, _, ht, rfl, rfl⟩, rfl⟩

def requiredInput : InputValue :=
  ⟨none, "n", .nonNull (.list (.named "Int")), none,
    [⟨"deprecated", []⟩, ⟨"Max", [("value", .int "5")]⟩]⟩

def reservedInput : InputValue := { requiredInput with name := "class" }

def countField : Field := ⟨none, "count", [], .named "Int", []⟩

theorem inputs_alike_requiredInput :
    (isIdentifier "A" = true ∧ isRootName "A" = false ∧ isIdentifier countField.name = true ∧
      javaType "p" countField.type.base = .ok (.primitive "int") ∧
      isIdentifier (fetcherName "a.graphqls") = true) ∧
    (∃ i, (fetcher "p" (operationDocument .query countField requiredInput) "a.graphqls").outcome =
        .ok i ∧
      i.methods.flatMap (·.parameters) =
        [⟨"n", .primitive "int",
          [notNull, ⟨.inPackage validationPackage "Max", [⟨"value", "5"⟩]⟩, inputArgument]⟩,
        environmentParameter]) ∧
    (fetcher "p" (operationDocument .query countField reservedInput) "a.graphqls").outcome =
      .error (.notIdentifier "parameter" "class") := by
  have hplace : isIdentifier "A" = true ∧ isRootName "A" = false ∧
      isIdentifier countField.name = true ∧
      javaType "p" countField.type.base = .ok (.primitive "int") ∧
      isIdentifier (fetcherName "a.graphqls") = true := by
    decide
  obtain ⟨htype, hdata, ho, hresult, hfile⟩ := hplace
  have hrequired : (dataClasses "p" (typeDocument .input "A" requiredInput) none).outcome =
      .ok [classWith "p" "A" none ⟨"n", .primitive "int",
        [notNull, ⟨.inPackage validationPackage "Max", [⟨"value", "5"⟩]⟩]⟩] := by
    decide
  have hreserved : (dataClasses "p" (typeDocument .input "A" reservedInput) none).outcome =
      .error (.notIdentifier "field" "class") := by
    decide
  refine ⟨⟨htype, hdata, ho, hresult, hfile⟩, ?_, ?_⟩
  · obtain ⟨⟨f, -, hok, hfetcher, -⟩ | ⟨e, herror, -⟩, -⟩ :=
      inputs_alike "p" requiredInput none .query htype hdata ho hresult hfile
    · cases hrequired.symm.trans hok
      exact ⟨_, hfetcher, rfl⟩
    · cases hrequired.symm.trans herror
  · obtain ⟨⟨f, -, hok, -⟩ | ⟨e, herror, hfetcher, -⟩, -⟩ :=
      inputs_alike "p" reservedInput none .query htype hdata ho hresult hfile
    · cases hreserved.symm.trans hok
    · cases hreserved.symm.trans herror
      exact hfetcher

end SchemaToJava.Emission
