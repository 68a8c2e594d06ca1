import SchemaToJava.Proofs.Agreement
import SchemaToJava.Proofs.Emission.Fetcher

/-!
What artifacts are made of. Documents are alike if their types and operations have the same names,
types and annotations; for this it is enough that their definitions are, one by one. Alike documents
give alike types, or the same fault.
-/

namespace SchemaToJava.Emission

open GraphQL Outcome

/-- Fields that are the same to a class of the given kind. -/
structure DataField.Alike (kind : TypeKind) (f g : DataField) : Prop where
  name : g.name = f.name
  base : g.type.base = f.type.base
  annotations : fieldAnnotations kind g = fieldAnnotations kind f

structure DataType.Alike (d e : DataType) : Prop where
  name : e.name = d.name
  kind : e.kind = d.kind
  fields : List.Forall₂ (DataField.Alike d.kind) d.fields e.fields

def InputsAlike (v w : InputValue) : Prop :=
  DataField.Alike .input ⟨v.name, v.type, v.directives⟩ ⟨w.name, w.type, w.directives⟩

structure Operation.Alike (o p : Operation) : Prop where
  root : p.root = o.root
  name : p.field.name = o.field.name
  base : p.field.type.base = o.field.type.base
  arguments : List.Forall₂ InputsAlike o.field.arguments p.field.arguments

structure DocumentsAlike (doc doc' : Document) : Prop where
  defined : List.Forall₂ DataType.Alike (definedTypes doc) (definedTypes doc')
  extended : List.Forall₂ DataType.Alike (extendedTypes doc) (extendedTypes doc')
  operations : List.Forall₂ Operation.Alike (operations doc) (operations doc')

def isDataItem : TypeSystemItem → Bool
  | .object _ => true
  | .input _ => true
  | _ => false

def isDataDefinition : Definition → Bool
  | .typeSystem item => isDataItem item
  | .extension item => isDataItem item
  | _ => false

theorem isRootName_iff (name : String) :
    isRootName name = true ↔ name = "Query" ∨ name = "Mutation" := by
  simp [isRootName]

/-- Fields of object types that are the same. Arguments count only where fields are operations. -/
structure FieldsAlike (isRoot : Bool) (f g : Field) : Prop where
  name : g.name = f.name
  base : g.type.base = f.type.base
  arguments : isRoot = true → List.Forall₂ InputsAlike f.arguments g.arguments

inductive ItemsAlike : TypeSystemItem → TypeSystemItem → Prop
  | object {t u : ObjectType} (name : u.name = t.name)
    (fields : List.Forall₂ (FieldsAlike (isRootName t.name)) t.fields u.fields) :
    ItemsAlike (.object t) (.object u)
  | input {t u : InputType} (name : u.name = t.name)
    (fields : List.Forall₂ InputsAlike t.fields u.fields) : ItemsAlike (.input t) (.input u)
  | other {i j : TypeSystemItem} (hi : isDataItem i = false) (hj : isDataItem j = false) :
    ItemsAlike i j

inductive DefinitionsAlike : Definition → Definition → Prop
  | typeSystem {i j : TypeSystemItem} (h : ItemsAlike i j) :
    DefinitionsAlike (.typeSystem i) (.typeSystem j)
  | extension {i j : TypeSystemItem} (h : ItemsAlike i j) :
    DefinitionsAlike (.extension i) (.extension j)
  | other {d e : Definition} (hd : isDataDefinition d = false) (he : isDataDefinition e = false) :
    DefinitionsAlike d e

/-- What a definition contributes to classes; an extension contributes nothing by itself. -/
def definedBy : Definition → Option DataType
  | .typeSystem item => contribution? item
  | _ => none

def extendedBy : Definition → Option DataType
  | .extension item => contribution? item
  | _ => none

theorem definedTypes_eq (doc : Document) : definedTypes doc = doc.definitions.filterMap definedBy := by
  refine congrArg (List.filterMap · _) (funext fun d => ?_)
  cases d <;> rfl

theorem extendedTypes_eq (doc : Document) :
    extendedTypes doc = doc.definitions.filterMap extendedBy := by
  refine congrArg (List.filterMap · _) (funext fun d => ?_)
  cases d <;> rfl

theorem contribution?_of_not_data {i : TypeSystemItem} (h : isDataItem i = false) :
    contribution? i = none := by
  cases i <;> first | rfl | cases h

theorem operationsOf_of_not_data {i : TypeSystemItem} (h : isDataItem i = false) :
    operationsOf (.typeSystem i) = [] := by
  cases i <;> first | rfl | cases h

theorem of_not_data {d : Definition} (h : isDataDefinition d = false) :
    definedBy d = none ∧ extendedBy d = none ∧ operationsOf d = [] := by
  cases d with
  | operation name => exact ⟨rfl, rfl, rfl⟩
  | fragment name => exact ⟨rfl, rfl, rfl⟩
  | typeSystem i => exact ⟨contribution?_of_not_data h, rfl, operationsOf_of_not_data h⟩
  | extension i =>
    rw [operationsOf_extension]
    exact ⟨rfl, contribution?_of_not_data h, operationsOf_of_not_data h⟩

theorem inputsAlike_same (vs : List InputValue) : List.Forall₂ InputsAlike vs vs :=
  List.forall₂_same.mpr fun _ _ => ⟨rfl, rfl, rfl⟩

namespace ItemsAlike

variable {i j : TypeSystemItem}

theorem refl (i : TypeSystemItem) : ItemsAlike i i := by
  cases i with
  | object t =>
    refine .object rfl (List.forall₂_same.mpr fun f _ => ⟨rfl, rfl, fun _ => ?_⟩)
    exact inputsAlike_same f.arguments
  | input t => exact .input rfl (inputsAlike_same t.fields)
  | _ => exact .other rfl rfl

theorem contribution? (h : ItemsAlike i j) :
    Option.Rel DataType.Alike (contribution? i) (contribution? j) := by
  cases h with
  | @object t u hname hfields =>
    simp only [Emission.contribution?, hname]
    split
    · exact .none
    · refine .some ⟨rfl, rfl, ?_⟩
      rw [List.forall₂_map_left_iff, List.forall₂_map_right_iff]
      exact hfields.imp fun f g hfg => ⟨hfg.name, hfg.base, rfl⟩
  | @input t u hname hfields =>
    simp only [Emission.contribution?, hname]
    split
    · exact .none
    · refine .some ⟨rfl, rfl, ?_⟩
      rw [List.forall₂_map_left_iff, List.forall₂_map_right_iff]
      exact hfields
  | other hi hj =>
    rw [contribution?_of_not_data hi, contribution?_of_not_data hj]
    exact .none

theorem operationsOf (h : ItemsAlike i j) :
    List.Forall₂ Operation.Alike (operationsOf (.typeSystem i)) (operationsOf (.typeSystem j)) := by
  cases h with
  | @object t u hname hfields =>
    rw [operationsOf_object, operationsOf_object, hname]
    rw [isRootName_eq] at hfields
    cases hroot : Root.ofName? t.name with
    | none => exact .nil
    | some r =>
      rw [hroot] at hfields
      rw [List.forall₂_map_left_iff, List.forall₂_map_right_iff]
      exact hfields.imp fun f g hfg => ⟨rfl, hfg.name, hfg.base, hfg.arguments rfl⟩
  | input => exact .nil
  | other hi hj =>
    rw [operationsOf_of_not_data hi, operationsOf_of_not_data hj]
    exact .nil

end ItemsAlike

namespace DefinitionsAlike

variable {d e : Definition}

theorem refl (d : Definition) : DefinitionsAlike d d := by
  cases d with
  | operation name => exact .other rfl rfl
  | fragment name => exact .other rfl rfl
  | typeSystem i => exact .typeSystem (.refl i)
  | extension i => exact .extension (.refl i)

theorem definedBy (h : DefinitionsAlike d e) :
    Option.Rel DataType.Alike (definedBy d) (definedBy e) := by
  cases h with
  | typeSystem h => exact h.contribution?
  | extension => exact .none
  | other hd he =>
    rw [(of_not_data hd).1, (of_not_data he).1]
    exact .none

theorem extendedBy (h : DefinitionsAlike d e) :
    Option.Rel DataType.Alike (extendedBy d) (extendedBy e) := by
  cases h with
  | typeSystem => exact .none
  | extension h => exact h.contribution?
  | other hd he =>
    rw [(of_not_data hd).2.1, (of_not_data he).2.1]
    exact .none

theorem operationsOf (h : DefinitionsAlike d e) :
    List.Forall₂ Operation.Alike (operationsOf d) (operationsOf e) := by
  cases h with
  | typeSystem h => exact h.operationsOf
  | extension h =>
    rw [operationsOf_extension, operationsOf_extension]
    exact h.operationsOf
  | other hd he =>
    rw [(of_not_data hd).2.2, (of_not_data he).2.2]
    exact .nil

end DefinitionsAlike

/-- It is enough to compare definitions one by one; those of other kinds may also be left out. -/
theorem documentsAlike_of_thinned {doc doc' : Document}
    (h : Thinned (isDataDefinition · = false) DefinitionsAlike doc.definitions doc'.definitions) :
    DocumentsAlike doc doc' := by
  constructor
  · rw [definedTypes_eq, definedTypes_eq]
    exact h.filterMap (fun _ hd => (of_not_data hd).1) fun _ _ => DefinitionsAlike.definedBy
  · rw [extendedTypes_eq, extendedTypes_eq]
    exact h.filterMap (fun _ hd => (of_not_data hd).2.1) fun _ _ => DefinitionsAlike.extendedBy
  · rw [operations_eq, operations_eq]
    exact h.flatMap (fun _ hd => (of_not_data hd).2.2) fun _ _ => DefinitionsAlike.operationsOf

theorem DocumentsAlike.refl (doc : Document) : DocumentsAlike doc doc :=
  documentsAlike_of_thinned (.of_forall₂ (List.forall₂_same.mpr fun d _ => .refl d))

namespace DataType

variable {d e : DataType} {fs gs : List DataField}

theorem any_name_alike {kind : TypeKind} (h : List.Forall₂ (DataField.Alike kind) fs gs)
    (name : String) : gs.any (·.name == name) = fs.any (·.name == name) := by
  induction h with
  | nil => rfl
  | cons hf _ ih => rw [List.any_cons, List.any_cons, ih, hf.name]

theorem Alike.hasField (h : d.Alike e) (name : String) : e.hasField name = d.hasField name :=
  any_name_alike h.fields name

theorem Alike.add (h : d.Alike e) {kind : TypeKind} (hkind : d.kind = kind)
    (hfields : List.Forall₂ (DataField.Alike kind) fs gs) :
    (d.add fs).1.Alike (e.add gs).1 ∧ (e.add gs).2 = (d.add fs).2 := by
  induction hfields generalizing d e with
  | nil => exact ⟨h, rfl⟩
  | @cons f g fs gs hf _ ih =>
    rw [DataType.add, DataType.add, hf.name, h.hasField]
    -- names are the same on both sides, so both stop at the same field or at none
    split
    · exact ⟨h, rfl⟩
    · have hlonger : ({ d with fields := d.fields ++ [f] } : DataType).Alike
          { e with fields := e.fields ++ [g] } :=
        ⟨h.name, h.kind, List.rel_append h.fields (.cons (hkind ▸ hf) .nil)⟩
      exact ih hlonger hkind

theorem Alike.addAll (h : d.Alike e) {kind : TypeKind} (hkind : d.kind = kind)
    (hfields : List.Forall₂ (DataField.Alike kind) fs gs) :
    Agree Alike (d.addAll fs) (e.addAll gs) := by
  obtain ⟨hadd, hrepeated⟩ := h.add hkind hfields
  unfold DataType.addAll
  generalize e.add gs = new at hadd hrepeated ⊢
  generalize d.add fs = old at hadd hrepeated ⊢
  obtain ⟨d', repeated⟩ := old
  obtain ⟨e', _⟩ := new
  cases hrepeated
  cases repeated with
  | none => exact .ok hadd
  | some name =>
    rw [h.name]
    exact .error _

end DataType

namespace Collection

variable {c c' : Collection} {d e : DataType}

theorem find?_alike (hc : List.Forall₂ DataType.Alike c c') (name : String) :
    Option.Rel DataType.Alike (c.find? name) (c'.find? name) := by
  unfold Collection.find?
  induction hc with
  | nil => exact .none
  | @cons d e _ _ hd _ ih =>
    rw [List.find?_cons, List.find?_cons, hd.name]
    cases d.name == name with
    | true => exact .some hd
    | false => exact ih

theorem replace_alike (hc : List.Forall₂ DataType.Alike c c') (hd : d.Alike e) :
    List.Forall₂ DataType.Alike (c.replace d) (c'.replace e) := by
  unfold Collection.replace
  rw [List.forall₂_map_left_iff, List.forall₂_map_right_iff]
  refine hc.imp fun f g hf => ?_
  rw [hf.name, hd.name]
  split
  · exact hd
  · exact hf

theorem completed_alike (hc : List.Forall₂ DataType.Alike c c') {there there' : DataType}
    (hthere : there.Alike there') (hkind : there.kind = d.kind) (hd : d.Alike e) :
    Agree (List.Forall₂ DataType.Alike) (do return c.replace (← there.addAll d.fields))
      (do return c'.replace (← there'.addAll e.fields)) := by
  apply Agree.bind (hthere.addAll hkind hd.fields)
  intro new new' hnew
  exact .ok (replace_alike hc hnew)

theorem define_alike (hc : List.Forall₂ DataType.Alike c c') (hd : d.Alike e) :
    Agree (List.Forall₂ DataType.Alike) (c.define d) (c'.define e) := by
  have hfound := find?_alike hc d.name
  unfold Collection.define
  rw [hd.name]
  generalize c.find? d.name = found at hfound ⊢
  generalize c'.find? d.name = found' at hfound ⊢
  cases hfound with
  | none =>
    have hempty : (⟨d.name, d.kind, []⟩ : DataType).Alike ⟨d.name, e.kind, []⟩ :=
      ⟨rfl, hd.kind, .nil⟩
    apply Agree.bind (hempty.addAll rfl hd.fields)
    intro new new' hnew
    exact .ok (List.rel_append hc (.cons hnew .nil))
  | @some there there' hthere =>
    simp only [hthere.kind, hd.kind]
    split
    · rename_i hkind
      exact completed_alike hc hthere hkind hd
    · exact .error _

theorem extend_alike (hc : List.Forall₂ DataType.Alike c c') (hd : d.Alike e) :
    Agree (List.Forall₂ DataType.Alike) (c.extend d).outcome (c'.extend e).outcome := by
  have hfound := find?_alike hc d.name
  have hskip : Agree (List.Forall₂ DataType.Alike) (extend.skip c d).outcome
      (extend.skip c' e).outcome := .ok hc
  unfold Collection.extend
  rw [hd.name]
  generalize c.find? d.name = found at hfound ⊢
  generalize c'.find? d.name = found' at hfound ⊢
  cases hfound with
  | none => exact hskip
  | @some there there' hthere =>
    simp only [hthere.kind, hd.kind]
    split
    · rename_i hkind
      rw [Traced.outcome_bind, Traced.outcome_bind]
      exact completed_alike hc hthere hkind hd
    · exact hskip

end Collection

theorem dataTypes_alike {doc doc' : Document} (h : DocumentsAlike doc doc') :
    Agree (List.Forall₂ DataType.Alike) (dataTypes doc).outcome (dataTypes doc').outcome := by
  unfold dataTypes
  simp only [Traced.outcome_bind, Traced.outcome_silently, Traced.outcome_foldlM]
  refine (Agree.foldlM h.defined (fun _ _ _ _ => Collection.define_alike) .nil).bind ?_
  intro c c' hc
  exact Agree.foldlM h.extended (fun _ _ _ _ => Collection.extend_alike) hc

end SchemaToJava.Emission
