import SchemaToJava.Proofs.Emission.Rebasing

/-!
Wrappers of types. Of a type reference only the name inside counts and, where a value is checked on
its way in, whether the outermost wrapper is a non-null mark.
-/

namespace SchemaToJava

open GraphQL

namespace GraphQL

/-- References to the same name, whatever is wrapped around it. -/
inductive TypeExpr.Around (name : String) : TypeExpr → Prop
  | named : Around name (.named name)
  | list {t : TypeExpr} (h : t.Around name) : Around name (.list t)
  | nonNull {t : TypeExpr} (h : t.Around name) : Around name (.nonNull t)

def TypeExpr.IsRequired (t : TypeExpr) : Prop := ∃ u, t = .nonNull u

/-- The name inside is the same; where a value is checked, so is whether it is required. -/
structure TypeExpr.Rewrapped (checked : Prop) (t u : TypeExpr) : Prop where
  name : ∃ n, t.Around n ∧ u.Around n
  required : checked → (t.IsRequired ↔ u.IsRequired)

theorem TypeExpr.Around.base_eq {name : String} {t : TypeExpr} (h : t.Around name) :
    t.base = name := by
  induction h with
  | named => rfl
  | list _ ih => exact ih
  | nonNull _ ih => exact ih

theorem TypeExpr.isNonNull_iff (t : TypeExpr) : t.isNonNull = true ↔ t.IsRequired := by
  cases t <;> simp [TypeExpr.isNonNull, TypeExpr.IsRequired]

theorem TypeExpr.around_base (t : TypeExpr) : t.Around t.base := by
  induction t with
  | named n => exact .named
  | list t ih => exact .list ih
  | nonNull t ih => exact .nonNull ih

theorem TypeExpr.rewrapped_iff {checked : Prop} {t u : TypeExpr} :
    t.Rewrapped checked u ↔ u.base = t.base ∧ (checked → u.isNonNull = t.isNonNull) := by
  have hrequired : u.isNonNull = t.isNonNull ↔ (t.IsRequired ↔ u.IsRequired) := by
    rw [Bool.eq_iff_iff, u.isNonNull_iff, t.isNonNull_iff]
    exact Iff.comm
  constructor
  · intro h
    obtain ⟨n, ht, hu⟩ := h.name
    refine ⟨?_, fun hchecked => hrequired.mpr (h.required hchecked)⟩
    rw [ht.base_eq, hu.base_eq]
  · rintro ⟨hbase, hmark⟩
    refine ⟨⟨t.base, t.around_base, ?_⟩, fun hchecked => hrequired.mp (hmark hchecked)⟩
    rw [← hbase]
    exact u.around_base

structure InputValue.Rewrapped (checked : Prop) (v w : InputValue) : Prop where
  type : v.type.Rewrapped checked w.type
  rest : w = { v with type := w.type }

/-- The arguments of operations are checked, other arguments and all results are not. -/
structure Field.Rewrapped (isOperation : Prop) (f g : Field) : Prop where
  type : f.type.Rewrapped False g.type
  arguments : List.Forall₂ (InputValue.Rewrapped isOperation) f.arguments g.arguments
  rest : g = { f with type := g.type, arguments := g.arguments }

structure ObjectType.Rewrapped (isRoot : Prop) (t u : ObjectType) : Prop where
  fields : List.Forall₂ (Field.Rewrapped isRoot) t.fields u.fields
  rest : u = { t with fields := u.fields }

structure InputType.Rewrapped (t u : InputType) : Prop where
  fields : List.Forall₂ (InputValue.Rewrapped True) t.fields u.fields
  rest : u = { t with fields := u.fields }

inductive TypeSystemItem.Rewrapped : TypeSystemItem → TypeSystemItem → Prop
  | object {t u : ObjectType} (h : t.Rewrapped (t.name = "Query" ∨ t.name = "Mutation") u) :
    Rewrapped (.object t) (.object u)
  | interface {t u : ObjectType} (h : t.Rewrapped False u) : Rewrapped (.interface t) (.interface u)
  | input {t u : InputType} (h : t.Rewrapped u) : Rewrapped (.input t) (.input u)
  | same (i : TypeSystemItem) : Rewrapped i i

inductive Definition.Rewrapped : Definition → Definition → Prop
  | typeSystem {i j : TypeSystemItem} (h : i.Rewrapped j) : Rewrapped (.typeSystem i) (.typeSystem j)
  | extension {i j : TypeSystemItem} (h : i.Rewrapped j) : Rewrapped (.extension i) (.extension j)
  | same (d : Definition) : Rewrapped d d

def Document.Rewrapped (d e : Document) : Prop :=
  List.Forall₂ Definition.Rewrapped d.definitions e.definitions

end GraphQL

namespace Emission

theorem inputsAlike_of_rewrapped {checked : Prop} {v w : InputValue} (h : v.Rewrapped checked w)
    (hchecked : checked) : InputsAlike v w := by
  have hname : w.name = v.name := by rw [h.rest]
  have hdirectives : w.directives = v.directives := by rw [h.rest]
  obtain ⟨hbase, hmark⟩ := TypeExpr.rewrapped_iff.mp h.type
  refine ⟨hname, hbase, ?_⟩
  simp only [fieldAnnotations, inputAnnotations, hdirectives, hmark hchecked]

theorem fieldsAlike_of_rewrapped {isRoot : Bool} {isOperation : Prop} {f g : Field}
    (h : f.Rewrapped isOperation g) (hroot : isRoot = true → isOperation) :
    FieldsAlike isRoot f g := by
  have hname : g.name = f.name := by rw [h.rest]
  have hbase := (TypeExpr.rewrapped_iff.mp h.type).1
  refine ⟨hname, hbase, fun htrue => h.arguments.imp fun v w hvw => ?_⟩
  exact inputsAlike_of_rewrapped hvw (hroot htrue)

theorem itemsAlike_of_object {t u : ObjectType}
    (h : t.Rewrapped (t.name = "Query" ∨ t.name = "Mutation") u) :
    ItemsAlike (.object t) (.object u) := by
  have hname : u.name = t.name := by rw [h.rest]
  refine .object hname (h.fields.imp fun f g hfg => ?_)
  exact fieldsAlike_of_rewrapped hfg (isRootName_iff t.name).mp

theorem itemsAlike_of_input {t u : InputType} (h : t.Rewrapped u) :
    ItemsAlike (.input t) (.input u) := by
  have hname : u.name = t.name := by rw [h.rest]
  exact .input hname (h.fields.imp fun v w hvw => inputsAlike_of_rewrapped hvw trivial)

theorem itemsAlike_of_rewrapped {i j : TypeSystemItem} (h : i.Rewrapped j) : ItemsAlike i j := by
  cases h with
  | object h => exact itemsAlike_of_object h
  | interface => exact .other rfl rfl
  | input h => exact itemsAlike_of_input h
  | same i => exact .refl i

theorem definitionsAlike_of_rewrapped {d e : Definition} (h : d.Rewrapped e) :
    DefinitionsAlike d e := by
  cases h with
  | typeSystem h => exact .typeSystem (itemsAlike_of_rewrapped h)
  | extension h => exact .extension (itemsAlike_of_rewrapped h)
  | same d => exact .refl d

theorem documentsAlike_of_rewrapped {doc doc' : Document} (h : doc.Rewrapped doc') :
    DocumentsAlike doc doc' :=
  documentsAlike_of_thinned (.of_forall₂ (h.imp fun _ _ => definitionsAlike_of_rewrapped))

/-- Lists, non-null marks inside of them, and all marks on what comes out leave no trace. -/
theorem emission_of_rewrapped {doc doc' : Document} (h : doc.Rewrapped doc') (base fileName : String)
    (source : Option String) :
    (dataClasses base doc' source).outcome = (dataClasses base doc source).outcome ∧
      (fetcher base doc' fileName).outcome = (fetcher base doc fileName).outcome := by
  have halike := documentsAlike_of_rewrapped h
  exact ⟨dataClasses_alike halike base source, fetcher_alike halike base fileName⟩

def wrappedText : List Char :=
  ("type Query \x7b a(n: [Int!]!): [A!]! \x7d type A \x7b f(n: ID!): [[ID!]]! \x7d " ++
    "input I \x7b n: [A!] \x7d").toList

def wrappedDocument : Document :=
  ⟨[.typeSystem (.object ⟨none, "Query", [], [],
      [⟨none, "a", [⟨none, "n", .nonNull (.list (.nonNull (.named "Int"))), none, []⟩],
        .nonNull (.list (.nonNull (.named "A"))), []⟩]⟩),
    .typeSystem (.object ⟨none, "A", [], [],
      [⟨none, "f", [⟨none, "n", .nonNull (.named "ID"), none, []⟩],
        .nonNull (.list (.list (.nonNull (.named "ID")))), []⟩]⟩),
    .typeSystem (.input ⟨none, "I", [],
      [⟨none, "n", .list (.nonNull (.named "A")), none, []⟩]⟩)]⟩

def unwrappedText : List Char :=
  ("type Query \x7b a(n: Int!): A \x7d type A \x7b f(n: ID): ID \x7d " ++
    "input I \x7b n: A \x7d").toList

def unwrappedDocument : Document :=
  ⟨[.typeSystem (.object ⟨none, "Query", [], [],
      [⟨none, "a", [⟨none, "n", .nonNull (.named "Int"), none, []⟩], .named "A", []⟩]⟩),
    .typeSystem (.object ⟨none, "A", [], [],
      [⟨none, "f", [⟨none, "n", .named "ID", none, []⟩], .named "ID", []⟩]⟩),
    .typeSystem (.input ⟨none, "I", [], [⟨none, "n", .named "A", none, []⟩]⟩)]⟩

theorem rewrapped_wrappedDocument : wrappedDocument.Rewrapped unwrappedDocument := by
  refine .cons (.typeSystem (.object ⟨.cons ⟨?result, .cons ⟨?argument, rfl⟩ .nil, rfl⟩ .nil, rfl⟩))
    (.cons (.typeSystem (.object ⟨.cons ⟨?field, .cons ⟨?other, rfl⟩ .nil, rfl⟩ .nil, rfl⟩))
      (.cons (.typeSystem (.input ⟨.cons ⟨?input, rfl⟩ .nil, rfl⟩)) .nil))
  all_goals exact TypeExpr.rewrapped_iff.mpr (by decide)

theorem emission_wrappedDocument :
    Document.parse wrappedText = .ok wrappedDocument ∧
      Document.parse unwrappedText = .ok unwrappedDocument ∧
      wrappedDocument.Rewrapped unwrappedDocument ∧
      ((dataClasses "p" wrappedDocument none).outcome.isOk ∧
        (dataClasses "p" unwrappedDocument none).outcome =
          (dataClasses "p" wrappedDocument none).outcome) ∧
      (fetcher "p" wrappedDocument "a.graphqls").outcome.isOk ∧
        (fetcher "p" unwrappedDocument "a.graphqls").outcome =
          (fetcher "p" wrappedDocument "a.graphqls").outcome := by
  obtain ⟨hclasses, hfetcher⟩ :=
    emission_of_rewrapped rewrapped_wrappedDocument "p" "a.graphqls" none
  exact ⟨by cbv, by cbv, rewrapped_wrappedDocument, ⟨by cbv, hclasses⟩, by cbv, hfetcher⟩

end Emission

end SchemaToJava
