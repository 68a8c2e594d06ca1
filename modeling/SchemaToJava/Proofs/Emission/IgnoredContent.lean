import SchemaToJava.Proofs.Emission.Rebasing

/-!
Content that is ignored. Parts of a document that nothing is made of may be left out; what they hold
makes no difference, not even whether the document is refused.
-/

namespace SchemaToJava

open GraphQL

namespace GraphQL

def Value.isLiteral : Value → Bool
  | .string _ => true
  | .int _ => true
  | .boolean _ => true
  | _ => false

def LeftOut {α : Type} (x y : Option α) : Prop := y = x ∨ y = none

structure Directive.Pruned (d e : Directive) : Prop where
  name : e.name = d.name
  arguments : Thinned (·.2.isLiteral = false) Eq d.arguments e.arguments

/-- Of a value that may be checked, the directives outside the catalogue do not count. -/
structure InputValue.Pruned (v w : InputValue) : Prop where
  description : LeftOut v.description w.description
  name : w.name = v.name
  type : w.type = v.type
  default : LeftOut v.default w.default
  directives : Thinned (·.name ∉ Emission.catalogue) Directive.Pruned v.directives w.directives

/-- Of a field no directives count, and arguments only if it is an operation. -/
structure Field.Pruned (isOperation : Prop) (f g : Field) : Prop where
  description : LeftOut f.description g.description
  name : g.name = f.name
  arguments : Thinned (fun _ => ¬ isOperation) InputValue.Pruned f.arguments g.arguments
  type : g.type = f.type
  directives : Thinned (fun _ => True) Directive.Pruned f.directives g.directives

structure ObjectType.Pruned (t u : ObjectType) : Prop where
  description : LeftOut t.description u.description
  name : u.name = t.name
  interfaces : u.interfaces.Sublist t.interfaces
  directives : Thinned (fun _ => True) Directive.Pruned t.directives u.directives
  fields : List.Forall₂ (Field.Pruned (t.name = "Query" ∨ t.name = "Mutation")) t.fields u.fields

structure InputType.Pruned (t u : InputType) : Prop where
  description : LeftOut t.description u.description
  name : u.name = t.name
  directives : Thinned (fun _ => True) Directive.Pruned t.directives u.directives
  fields : List.Forall₂ InputValue.Pruned t.fields u.fields

inductive TypeSystemItem.Pruned : TypeSystemItem → TypeSystemItem → Prop
  | object {t u : ObjectType} (h : t.Pruned u) : Pruned (.object t) (.object u)
  | input {t u : InputType} (h : t.Pruned u) : Pruned (.input t) (.input u)

inductive Definition.Pruned : Definition → Definition → Prop
  | typeSystem {i j : TypeSystemItem} (h : i.Pruned j) : Pruned (.typeSystem i) (.typeSystem j)
  | extension {i j : TypeSystemItem} (h : i.Pruned j) : Pruned (.extension i) (.extension j)
  | other {d e : Definition} (hd : Emission.isDataDefinition d = false)
    (he : Emission.isDataDefinition e = false) : Pruned d e

/-- A document and what is left of it. -/
def Document.Pruned (d e : Document) : Prop :=
  Thinned (Emission.isDataDefinition · = false) Definition.Pruned d.definitions e.definitions

end GraphQL

namespace Emission

theorem literal?_of_not_literal {v : Value} (h : v.isLiteral = false) : literal? v = .ok none := by
  cases v <;> first | rfl | cases h

theorem literalArguments_pruned {as bs : List (String × Value)}
    (h : Thinned (·.2.isLiteral = false) Eq as bs) : literalArguments bs = literalArguments as := by
  induction h with
  | nil => rfl
  | @keep a _ _ _ hab _ ih =>
    subst hab
    rw [literalArguments, literalArguments, ih]
  | @leave a _ _ ha _ ih =>
    -- what has no literal is passed over, and that never fails
    rw [literalArguments, literal?_of_not_literal ha, ih]
    rfl

theorem constraint_pruned {d e : Directive} (h : d.Pruned e) : constraint e = constraint d := by
  rw [constraint, constraint, literalArguments_pruned h.arguments, h.name]

theorem constraints_pruned {ds es : List Directive}
    (h : Thinned (·.name ∉ catalogue) Directive.Pruned ds es) :
    (constraints es).outcome = (constraints ds).outcome := by
  induction h with
  | nil => rfl
  | @keep d e _ _ hde _ ih =>
    rw [constraints, constraints, hde.name, constraint_pruned hde]
    split
    · simp only [Traced.outcome_bind, ih]
    · simp only [Traced.outcome_bind, ih]
  | @leave d _ _ hd _ ih =>
    have hcontains : catalogue.contains d.name = false := by
      simpa using hd
    rw [constraints, hcontains, ih]
    rfl

theorem inputAnnotations_pruned {v w : InputValue} (h : v.Pruned w) :
    (inputAnnotations w.type w.directives).outcome =
      (inputAnnotations v.type v.directives).outcome := by
  simp only [inputAnnotations, Traced.outcome_bind, constraints_pruned h.directives, h.type]

theorem inputsAlike_of_pruned {v w : InputValue} (h : v.Pruned w) : InputsAlike v w :=
  ⟨h.name, congrArg TypeExpr.base h.type, inputAnnotations_pruned h⟩

theorem fieldsAlike_of_pruned {isRoot : Bool} {isOperation : Prop} {f g : Field}
    (h : f.Pruned isOperation g) (hroot : isRoot = true → isOperation) : FieldsAlike isRoot f g := by
  refine ⟨h.name, congrArg TypeExpr.base h.type, fun htrue => ?_⟩
  have hall := h.arguments.forall₂ fun _ hnot => hnot (hroot htrue)
  exact hall.imp fun v w => inputsAlike_of_pruned

theorem itemsAlike_of_pruned {i j : TypeSystemItem} (h : i.Pruned j) : ItemsAlike i j := by
  cases h with
  | @object t u h =>
    refine .object h.name (h.fields.imp fun f g hfg => ?_)
    exact fieldsAlike_of_pruned hfg (isRootName_iff t.name).mp
  | input h => exact .input h.name (h.fields.imp fun v w => inputsAlike_of_pruned)

theorem definitionsAlike_of_pruned {d e : Definition} (h : d.Pruned e) : DefinitionsAlike d e := by
  cases h with
  | typeSystem h => exact .typeSystem (itemsAlike_of_pruned h)
  | extension h => exact .extension (itemsAlike_of_pruned h)
  | other hd he => exact .other hd he

theorem documentsAlike_of_pruned {doc doc' : Document} (h : doc.Pruned doc') :
    DocumentsAlike doc doc' :=
  documentsAlike_of_thinned (h.imp fun _ _ => definitionsAlike_of_pruned)

/-- What is left of a document gives the same classes and the same interface, or the same fault. -/
theorem emission_of_pruned {doc doc' : Document} (h : doc.Pruned doc') (base fileName : String)
    (source : Option String) :
    (dataClasses base doc' source).outcome = (dataClasses base doc source).outcome ∧
      (fetcher base doc' fileName).outcome = (fetcher base doc fileName).outcome := by
  have halike := documentsAlike_of_pruned h
  exact ⟨dataClasses_alike halike base source, fetcher_alike halike base fileName⟩

theorem digitCount_replicate (n : Nat) :
    digitCount (String.ofList (List.replicate n '9')) = n := by
  have hdigit : GraphQL.isDigit '9' = true := by decide
  simp [digitCount, List.countP_replicate, hdigit]

def longInteger : String := String.ofList (List.replicate 5000 '9')

/-- What is ignored has reserved names, two arguments of one name and integers that are too long. -/
def crowdedDocument : Document :=
  ⟨[.typeSystem (.enum "class"),
    .typeSystem (.object ⟨some "int", "Query", ["class"], [⟨"class", []⟩],
      [⟨none, "a", [⟨none, "i", .named "I", some .null, [⟨"class", [("n", .int longInteger)]⟩]⟩],
        .named "A", [⟨"Max", [("value", .int longInteger)]⟩]⟩]⟩),
    .typeSystem (.object ⟨none, "A", [], [],
      [⟨none, "n", [⟨none, "int", .named "int", some (.int longInteger), []⟩,
        ⟨none, "int", .named "int", none, []⟩], .named "Int", []⟩]⟩),
    .extension (.interface ⟨none, "class", [], [], []⟩),
    .typeSystem (.input ⟨none, "I", [⟨"class", []⟩],
      [⟨some "class", "n", .named "Int", some (.int longInteger),
        [⟨"Min", [("value", .int "5"), ("class", .enum "class")]⟩, ⟨"class", []⟩]⟩]⟩)]⟩

def prunedDocument : Document :=
  ⟨[.typeSystem (.object ⟨none, "Query", [], [],
      [⟨none, "a", [⟨none, "i", .named "I", none, []⟩], .named "A", []⟩]⟩),
    .typeSystem (.object ⟨none, "A", [], [], [⟨none, "n", [], .named "Int", []⟩]⟩),
    .typeSystem (.input ⟨none, "I", [],
      [⟨none, "n", .named "Int", none, [⟨"Min", [("value", .int "5")]⟩]⟩]⟩)]⟩

theorem pruned_crowdedDocument : crowdedDocument.Pruned prunedDocument := by
  have hargument : InputValue.Pruned
      ⟨none, "i", .named "I", some .null, [⟨"class", [("n", .int longInteger)]⟩]⟩
      ⟨none, "i", .named "I", none, []⟩ :=
    ⟨.inl rfl, rfl, rfl, .inr rfl, .leave (by decide) .nil⟩
  have hinput : InputValue.Pruned
      ⟨some "class", "n", .named "Int", some (.int longInteger),
        [⟨"Min", [("value", .int "5"), ("class", .enum "class")]⟩, ⟨"class", []⟩]⟩
      ⟨none, "n", .named "Int", none, [⟨"Min", [("value", .int "5")]⟩]⟩ :=
    ⟨.inr rfl, rfl, rfl, .inr rfl,
      .keep ⟨rfl, .keep rfl (.leave rfl .nil)⟩ (.leave (by decide) .nil)⟩
  refine .leave rfl (.keep (.typeSystem (.object ?query)) (.keep (.typeSystem (.object ?type))
    (.leave rfl (.keep (.typeSystem (.input ?input)) .nil))))
  case query =>
    exact ⟨.inr rfl, rfl, List.nil_sublist _, .leave trivial .nil,
      .cons ⟨.inl rfl, rfl, .keep hargument .nil, rfl, .leave trivial .nil⟩ .nil⟩
  case type =>
    exact ⟨.inl rfl, rfl, List.nil_sublist _, .nil,
      .cons ⟨.inl rfl, rfl, .leave (by decide) (.leave (by decide) .nil), rfl, .nil⟩ .nil⟩
  case input => exact ⟨.inl rfl, rfl, .leave trivial .nil, .cons hinput .nil⟩

theorem emission_crowdedDocument :
    crowdedDocument.Pruned prunedDocument ∧ Text.maxDecimalDigits < digitCount longInteger ∧
      ((dataClasses "p" crowdedDocument none).outcome.isOk ∧
        (dataClasses "p" prunedDocument none).outcome =
          (dataClasses "p" crowdedDocument none).outcome) ∧
      (fetcher "p" crowdedDocument "a.graphqls").outcome.isOk ∧
        (fetcher "p" prunedDocument "a.graphqls").outcome =
          (fetcher "p" crowdedDocument "a.graphqls").outcome := by
  obtain ⟨hclasses, hfetcher⟩ :=
    emission_of_pruned pruned_crowdedDocument "p" "a.graphqls" none
  have hlong : Text.maxDecimalDigits < digitCount longInteger := by
    have hcount : digitCount longInteger = 5000 := digitCount_replicate 5000
    rw [hcount, Text.maxDecimalDigits]
    omega
  refine ⟨pruned_crowdedDocument, hlong, ⟨?_, hclasses⟩, ?_, hfetcher⟩
  · rw [← hclasses]
    cbv
  · rw [← hfetcher]
    cbv

end Emission

end SchemaToJava
