import SchemaToJava.Emission.DataClass
import SchemaToJava.Emission.Fetcher
import SchemaToJava.Proofs.Outcome

/-!
What building artifacts reports and how it can fail. Its events are for those who look for details,
and its faults are about names, repeated fields, kinds that contradict each other and integers that
are too long.
-/

namespace SchemaToJava.Emission

open GraphQL Java

inductive IsBuildFault : Fault → Prop where
  | duplicateField (type field : String) : IsBuildFault (.duplicateField type field)
  | conflictingKinds (type : String) (first second : TypeKind) :
    IsBuildFault (.conflictingKinds type first second)
  | notIdentifier (element name : String) : IsBuildFault (.notIdentifier element name)
  | integer (e : Text.IntegerError) : IsBuildFault (.integer e)

inductive IsBuildEvent : Event → Prop where
  | skippingExtension (type : String) : IsBuildEvent (.skippingExtension type)
  | ignoringDirective (name : String) : IsBuildEvent (.ignoringDirective name)
  | builtClasses (count : Nat) : IsBuildEvent (.builtClasses count)
  | builtFetcher (name : String) (operations : Nat) : IsBuildEvent (.builtFetcher name operations)

/-- Building reports details only and fails with faults of the document only. -/
abbrev Builds {α : Type} (x : Traced α) : Prop := x.Within IsBuildEvent IsBuildFault

theorem requireIdentifier_fault {element name : String} {f : Fault}
    (h : requireIdentifier element name = .error f) : f = .notIdentifier element name := by
  unfold requireIdentifier at h
  split at h
  · cases h
  · exact (Except.error.inj h).symm

theorem javaType_fault {base name : String} {f : Fault} (h : javaType base name = .error f) :
    f = .notIdentifier "type" name := by
  unfold javaType at h
  split at h
  · cases h
  · rcases Outcome.bind_eq_error_iff.mp h with h | ⟨_, -, h⟩
    · exact requireIdentifier_fault h
    · cases h

theorem literal?_fault {v : Value} {f : Fault} (h : literal? v = .error f) :
    ∃ e, f = .integer e := by
  unfold literal? at h
  split at h
  · cases h
  · split at h
    · cases h
    · exact ⟨_, (Except.error.inj h).symm⟩
  · cases h
  · cases h

theorem literalArguments_fault {args : List (String × Value)} {f : Fault}
    (h : literalArguments args = .error f) : ∃ e, f = .integer e := by
  induction args with
  | nil => cases h
  | cons arg rest ih =>
    rw [literalArguments] at h
    rcases Outcome.bind_eq_error_iff.mp h with h | ⟨l, -, h⟩
    · exact literal?_fault h
    · cases l with
      | none => exact ih h
      | some l =>
        rcases Outcome.bind_eq_error_iff.mp h with h | ⟨_, -, h⟩
        · exact ih h
        · cases h

theorem constraint_fault {d : Directive} {f : Fault} (h : constraint d = .error f) :
    ∃ e, f = .integer e := by
  rcases Outcome.bind_eq_error_iff.mp h with h | ⟨_, -, h⟩
  · exact literalArguments_fault h
  · cases h

theorem constraints_within (ds : List Directive) :
    (constraints ds).Within IsBuildEvent fun f => ∃ e, f = .integer e := by
  induction ds with
  | nil => exact .pure _
  | cons d rest ih =>
    rw [constraints]
    split
    · exact .bind (.silently fun _ => constraint_fault) fun _ => .bind ih fun _ => .pure _
    · exact .bind (.note (.ignoringDirective _)) fun _ => ih

theorem builds_requireIdentifier (element name : String) :
    Builds (Traced.silently (requireIdentifier element name)) :=
  .silently fun _ h => requireIdentifier_fault h ▸ .notIdentifier element name

theorem builds_javaType (base name : String) : Builds (Traced.silently (javaType base name)) :=
  .silently fun _ h => javaType_fault h ▸ .notIdentifier "type" name

theorem builds_constraints (ds : List Directive) : Builds (constraints ds) := by
  refine ⟨(constraints_within ds).events, fun f h => ?_⟩
  obtain ⟨e, rfl⟩ := (constraints_within ds).fault f h
  exact .integer e

theorem builds_inputAnnotations (type : TypeExpr) (ds : List Directive) :
    Builds (inputAnnotations type ds) :=
  .bind (builds_constraints ds) fun _ => .pure _

theorem addAll_fault {d : DataType} {fields : List DataField} {f : Fault}
    (h : d.addAll fields = .error f) : IsBuildFault f := by
  unfold DataType.addAll at h
  split at h
  · cases h
  · cases h
    exact .duplicateField _ _

theorem define_fault {c : Collection} {d : DataType} {f : Fault} (h : c.define d = .error f) :
    IsBuildFault f := by
  unfold Collection.define at h
  split at h
  · rcases Outcome.bind_eq_error_iff.mp h with h | ⟨_, -, h⟩
    · exact addAll_fault h
    · cases h
  · split at h
    · rcases Outcome.bind_eq_error_iff.mp h with h | ⟨_, -, h⟩
      · exact addAll_fault h
      · cases h
    · cases h
      exact .conflictingKinds _ _ _

theorem defined_fault {ds : List DataType} {c : Collection} {f : Fault}
    (h : ds.foldlM Collection.define c = .error f) : IsBuildFault f := by
  induction ds generalizing c with
  | nil => cases h
  | cons d ds ih =>
    rw [List.foldlM_cons] at h
    rcases Outcome.bind_eq_error_iff.mp h with h | ⟨_, -, h⟩
    · exact define_fault h
    · exact ih h

theorem builds_extend (c : Collection) (d : DataType) : Builds (c.extend d) := by
  have hskip : Builds (Collection.extend.skip c d) :=
    .bind (.note (.skippingExtension _)) fun _ => .pure _
  unfold Collection.extend
  split
  · exact hskip
  · split
    · exact .bind (.silently fun _ => addAll_fault) fun _ => .pure _
    · exact hskip

theorem builds_dataTypes (doc : Document) : Builds (dataTypes doc) :=
  .bind (.silently fun _ => defined_fault) fun c => .foldlM builds_extend _ c

theorem builds_dataClassField (base : String) (kind : TypeKind) (f : DataField) :
    Builds (dataClassField base kind f) := by
  unfold dataClassField
  refine .bind (builds_javaType _ _) fun type => ?_
  cases kind with
  | object =>
    exact .bind (.pure []) fun _ => .bind (builds_requireIdentifier _ _) fun _ => .pure _
  | input =>
    exact .bind (builds_inputAnnotations _ _) fun _ =>
      .bind (builds_requireIdentifier _ _) fun _ => .pure _

theorem builds_dataClass (base : String) (source : Option String) (d : DataType) :
    Builds (dataClass base source d) :=
  .bind (.mapM (builds_dataClassField base d.kind) _) fun _ =>
    .bind (builds_requireIdentifier _ _) fun _ => .pure _

theorem builds_dataClasses (base : String) (doc : Document) (source : Option String) :
    Builds (dataClasses base doc source) :=
  .bind (builds_dataTypes doc) fun _ => .bind (.mapM (builds_dataClass base source) _) fun _ =>
    .bind (.note (.builtClasses _)) fun _ => .pure _

theorem builds_parameter (base : String) (a : InputValue) : Builds (parameter base a) :=
  .bind (builds_javaType _ _) fun _ => .bind (builds_inputAnnotations _ _) fun _ =>
    .bind (builds_requireIdentifier _ _) fun _ => .pure _

theorem builds_method (base : String) (o : Operation) : Builds (method base o) :=
  .bind (.mapM (builds_parameter base) _) fun _ => .bind (builds_javaType _ _) fun _ =>
    .bind (builds_requireIdentifier _ _) fun _ => .pure _

theorem builds_methods (base : String) (seen : List (Root × String)) (os : List Operation) :
    Builds (methods base seen os) := by
  induction os generalizing seen with
  | nil => exact .pure _
  | cons o rest ih =>
    rw [methods]
    split
    · exact .fail (.duplicateField _ _)
    · exact .bind (builds_method base o) fun _ => .bind (ih _) fun _ => .pure _

theorem builds_fetcher (base : String) (doc : Document) (fileName : String) :
    Builds (fetcher base doc fileName) :=
  .bind (builds_methods base [] _) fun _ => .bind (builds_requireIdentifier _ _) fun _ =>
    .bind (.note (.builtFetcher _ _)) fun _ => .pure _

end SchemaToJava.Emission
