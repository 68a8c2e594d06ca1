import SchemaToJava.GraphQL.Grammar
import SchemaToJava.Proofs.GraphQL.Cursor

/-!
The names in a document that was read from a text. Types and fields, arguments, directives and the
arguments of directives all have names, and an integer that is such an argument is a numeral.
-/

namespace SchemaToJava.GraphQL

def Value.Numeric (v : Value) : Prop := ∀ s, v = .int s → IsNumeral s

structure Directive.Named (d : Directive) : Prop where
  name : IsName d.name
  arguments : ∀ a ∈ d.arguments, IsName a.1
  values : ∀ a ∈ d.arguments, a.2.Numeric

structure InputValue.Named (v : InputValue) : Prop where
  name : IsName v.name
  type : IsName v.type.base
  directives : ∀ d ∈ v.directives, d.Named

structure Field.Named (f : Field) : Prop where
  name : IsName f.name
  arguments : ∀ v ∈ f.arguments, v.Named
  type : IsName f.type.base
  directives : ∀ d ∈ f.directives, d.Named

structure ObjectType.Named (t : ObjectType) : Prop where
  name : IsName t.name
  fields : ∀ f ∈ t.fields, f.Named

structure InputType.Named (t : InputType) : Prop where
  name : IsName t.name
  fields : ∀ f ∈ t.fields, f.Named

def TypeSystemItem.Named : TypeSystemItem → Prop
  | .object t => t.Named
  | .interface t => t.Named
  | .input t => t.Named
  | _ => True

def Definition.Named : Definition → Prop
  | .typeSystem i => i.Named
  | .extension i => i.Named
  | _ => True

def Document.Named (doc : Document) : Prop := ∀ d ∈ doc.definitions, d.Named

namespace Grammar

open Rule

theorem yields_tooDeep {α : Type} {P : α → Prop} : (tooDeep : Rule α).Yields P :=
  yields_current.bind fun _ _ => yields_fail _ _

theorem yields_orNonNull {t : TypeExpr} (h : IsName t.base) :
    (orNonNull t).Yields fun u => IsName u.base :=
  (yields_skip? _).bind fun _ _ => .pure (by split <;> exact h)

theorem yields_typeExpr (room : Nat) : (typeExpr room).Yields fun t => IsName t.base := by
  induction room with
  | zero =>
    have hnamed : (do orNonNull (.named (← name)) : Rule TypeExpr).Yields fun t => IsName t.base :=
      yields_name.bind fun _ h => yields_orNonNull h
    exact (yields_skip? _).bind fun _ _ =>
      .ite ((yields_tooDeep : (tooDeep : Rule Unit).Keeps).bind fun _ _ => hnamed) hnamed
  | succ room ih =>
    exact (yields_skip? _).bind fun _ _ => .ite
      (ih.bind fun _ h => (yields_punct _).bind fun _ _ => yields_orNonNull h)
      (yields_name.bind fun _ h => yields_orNonNull h)

theorem yields_variableName : variableName.Keeps :=
  (yields_punct _).bind fun _ _ => yields_name.keeps

theorem yields_flatValue (constant : Bool) : (flatValue constant).Yields Value.Numeric := by
  have hanswer : ∀ v : Value, v.Numeric → (do advance; return v : Rule Value).Yields Value.Numeric :=
    fun v hv => yields_advance.bind fun _ _ => .pure hv
  have hother : ∀ v : Value, (∀ s, v ≠ .int s) → v.Numeric := fun v hv s hs => absurd hs (hv s)
  refine yields_current.bind fun t ht => ?_
  split
  · rename_i s hs
    exact hanswer _ fun s' heq => (by cases heq; exact ht.numeral s hs)
  all_goals try exact hanswer _ (hother _ fun _ => Value.noConfusion)
  · split
    · refine yields_advance.bind fun _ _ => yields_current.bind fun _ _ => ?_
      split
      · exact yields_fail _ _
      · exact yields_unexpected _
    · exact yields_variableName.bind fun _ _ => .pure (hother _ fun _ => Value.noConfusion)
  · exact yields_unexpected _

theorem yields_value (constant : Bool) (room : Nat) :
    (value constant room).Yields Value.Numeric := by
  induction room with
  | zero =>
    have hflat := yields_flatValue constant
    exact (yields_peek _).bind fun _ _ => (yields_peek _).bind fun _ _ =>
      .ite ((yields_tooDeep : (tooDeep : Rule Unit).Keeps).bind fun _ _ => hflat) hflat
  | succ room ih =>
    have hentry : (do
        let key ← name
        punct .colon
        return (key, ← value constant room) : Rule (String × Value)).Keeps :=
      yields_name.bind fun _ _ => (yields_punct _).bind fun _ _ => ih.bind fun _ _ => .pure trivial
    refine (yields_peek _).bind fun _ _ => .ite ?_ ((yields_peek _).bind fun _ _ => .ite ?_ ?_)
    · exact (yields_surrounded ih _ _).bind fun _ _ => .pure fun _ => Value.noConfusion
    · exact (yields_surrounded hentry _ _).bind fun _ _ => .pure fun _ => Value.noConfusion
    · exact yields_flatValue constant

theorem yields_arguments (constant : Bool) (room : Nat) :
    (arguments constant room).Yields fun as => ∀ a ∈ as, IsName a.1 ∧ a.2.Numeric := by
  unfold arguments
  refine yields_optionalGroup ?_ _ _
  exact yields_name.bind fun _ hn => (yields_punct _).bind fun _ _ =>
    (yields_value constant room).bind fun _ hv => .pure ⟨hn, hv⟩

theorem yields_directives (constant : Bool) (room : Nat) :
    (directives constant room).Yields fun ds => ∀ d ∈ ds, d.Named := by
  unfold directives
  refine yields_startingWith ?_ _
  exact (yields_punct _).bind fun _ _ => yields_name.bind fun _ h =>
    (yields_arguments constant room).bind fun _ ha =>
      .pure ⟨h, fun a hmem => (ha a hmem).1, fun a hmem => (ha a hmem).2⟩

theorem yields_constDirectives : constDirectives.Yields fun ds => ∀ d ∈ ds, d.Named :=
  yields_directives true maxNesting

theorem yields_fragmentName : fragmentName.Keeps := by
  have hname := yields_name.keeps
  exact yields_current.bind fun _ _ =>
    .ite ((yields_unexpectedHere : (unexpectedHere : Rule Unit).Keeps).bind fun _ _ => hname) hname

theorem yields_selection (room : Nat) {nested : Rule Unit} (h : nested.Keeps) :
    (selection room nested).Keeps := by
  have hdirectives := yields_directives false room
  refine (yields_skip? _).bind fun _ _ => .ite ?_ ?_
  · refine (yields_skip? _).bind fun _ _ => .ite ?_ ?_
    · exact yields_name.bind fun _ _ => hdirectives.bind fun _ _ => h
    · refine yields_current.bind fun _ _ => ?_
      split
      · exact yields_fragmentName.bind fun _ _ => hdirectives.bind fun _ _ => .pure trivial
      · exact hdirectives.bind fun _ _ => h
  · have hrest : (do
        let _ ← arguments false room
        let _ ← directives false room
        if ← peek (.punct .braceL) then nested : Rule Unit).Keeps :=
      (yields_arguments false room).bind fun _ _ => hdirectives.bind fun _ _ =>
        (yields_peek _).bind fun _ _ => .ite h (.pure trivial)
    exact yields_name.bind fun _ _ => (yields_skip? _).bind fun _ _ =>
      .ite (yields_name.bind fun _ _ => hrest) hrest

theorem yields_selectionSet (room : Nat) : (selectionSet room).Keeps := by
  induction room with
  | zero => exact yields_tooDeep
  | succ room ih =>
    exact (yields_surrounded (yields_selection room ih) _ _).bind fun _ _ => .pure trivial

theorem yields_description : description.Keeps := by
  refine yields_current.bind fun _ _ => ?_
  split
  · exact yields_advance.bind fun _ _ => .pure trivial
  · exact yields_advance.bind fun _ _ => .pure trivial
  · exact .pure trivial

theorem yields_defaultValue : defaultValue.Keeps :=
  (yields_skip? _).bind fun _ _ =>
    .ite ((yields_value true maxNesting).bind fun _ _ => .pure trivial) (.pure trivial)

theorem yields_variableDefinition : variableDefinition.Keeps :=
  yields_description.bind fun _ _ => yields_variableName.bind fun _ _ =>
    (yields_punct _).bind fun _ _ => (yields_typeExpr _).bind fun _ _ =>
      yields_defaultValue.bind fun _ _ => yields_constDirectives.bind fun _ _ => .pure trivial

theorem yields_operationKind : operationKind.Keeps :=
  yields_current.bind fun t _ => yields_name.bind fun _ _ =>
    .ite (.pure trivial) (yields_unexpected t)

theorem yields_executableBody : executableBody.Keeps :=
  (yields_directives false maxNesting).bind fun _ _ => yields_selectionSet maxNesting

theorem yields_operation : operation.Yields Definition.Named := by
  refine yields_description.bind fun _ _ => yields_operationKind.bind fun _ _ =>
    yields_current.bind fun t _ => ?_
  have hrest : ∀ called : Option String, (do
      let _ ← optionalGroup .parenL .parenR variableDefinition
      executableBody
      return .operation called : Rule Definition).Yields Definition.Named := fun called =>
    (yields_optionalGroup yields_variableDefinition _ _).bind fun _ _ =>
      yields_executableBody.bind fun _ _ => .pure trivial
  split
  · have hname : (some <$> name : Rule (Option String)).Keeps := yields_name.map fun _ _ => trivial
    exact hname.bind fun called _ => hrest called
  · exact hrest none

theorem yields_fragment : fragment.Yields Definition.Named :=
  yields_description.bind fun _ _ => (yields_keyword _).bind fun _ _ =>
    yields_fragmentName.bind fun _ _ => (yields_keyword _).bind fun _ _ =>
      yields_name.bind fun _ _ => yields_executableBody.bind fun _ _ => .pure trivial

theorem yields_inputValue : inputValue.Yields InputValue.Named :=
  yields_description.bind fun _ _ => yields_name.bind fun _ hn => (yields_punct _).bind fun _ _ =>
    (yields_typeExpr _).bind fun _ ht => yields_defaultValue.bind fun _ _ =>
      yields_constDirectives.bind fun _ hd => .pure ⟨hn, ht, hd⟩

theorem yields_field : field.Yields Field.Named :=
  yields_description.bind fun _ _ => yields_name.bind fun _ hn =>
    (yields_optionalGroup yields_inputValue _ _).bind fun _ ha => (yields_punct _).bind fun _ _ =>
      (yields_typeExpr _).bind fun _ ht => yields_constDirectives.bind fun _ hd =>
        .pure ⟨hn, ha, ht, hd⟩

theorem yields_implemented : implemented.Keeps :=
  (yields_skip? _).bind fun _ _ => .ite (yields_separated yields_name _).keeps (.pure trivial)

theorem yields_unionMembers : unionMembers.Keeps :=
  (yields_skip? _).bind fun _ _ => .ite (yields_separated yields_name _).keeps (.pure trivial)

theorem yields_rootType : rootType.Keeps :=
  yields_operationKind.bind fun _ _ => (yields_punct _).bind fun _ _ => yields_name.bind fun _ _ =>
    .pure trivial

theorem yields_enumValue : enumValue.Keeps := by
  have hrest : (do
      let _ ← name
      let _ ← constDirectives : Rule Unit).Keeps :=
    yields_name.bind fun _ _ => yields_constDirectives.bind fun _ _ => .pure trivial
  exact yields_description.bind fun _ _ => yields_current.bind fun _ _ =>
    .ite ((yields_fail _ _ : (fail _ _ : Rule Unit).Keeps).bind fun _ _ => hrest) hrest

theorem yields_directiveLocation : directiveLocation.Keeps :=
  yields_current.bind fun t _ => yields_name.bind fun _ _ =>
    .ite (.pure trivial) (yields_unexpected t)

theorem yields_required (adds : Bool) : (required adds).Keeps :=
  .ite (.pure trivial) yields_unexpectedHere

theorem yields_objectBody (about : Option String) : (objectBody about).Yields ObjectType.Named :=
  yields_name.bind fun _ hn => yields_implemented.bind fun _ _ =>
    yields_constDirectives.bind fun _ _ => (yields_optionalGroup yields_field _ _).bind fun _ hf =>
      .pure ⟨hn, hf⟩

theorem yields_objectAddition : objectAddition.Yields ObjectType.Named :=
  (yields_objectBody none).bind fun _ h => (yields_required _).bind fun _ _ => .pure h

theorem yields_inputBody (about : Option String) : (inputBody about).Yields InputType.Named :=
  yields_name.bind fun _ hn => yields_constDirectives.bind fun _ _ =>
    (yields_optionalGroup yields_inputValue _ _).bind fun _ hf => .pure ⟨hn, hf⟩

theorem yields_typeSystemDefinition? {word : String} {rule : Rule TypeSystemItem}
    (h : typeSystemDefinition? word = some rule) : rule.Yields TypeSystemItem.Named := by
  unfold typeSystemDefinition? at h
  split_ifs at h
  all_goals cases h
  · exact yields_description.bind fun _ _ => (yields_keyword _).bind fun _ _ =>
      yields_constDirectives.bind fun _ _ => (yields_group yields_rootType _ _).bind fun _ _ =>
        .pure trivial
  · exact yields_description.bind fun _ _ => (yields_keyword _).bind fun _ _ =>
      yields_name.bind fun _ _ => yields_constDirectives.bind fun _ _ => .pure trivial
  · exact yields_description.bind fun about _ => (yields_keyword _).bind fun _ _ =>
      (yields_objectBody about).bind fun _ h => .pure h
  · exact yields_description.bind fun about _ => (yields_keyword _).bind fun _ _ =>
      (yields_objectBody about).bind fun _ h => .pure h
  · exact yields_description.bind fun _ _ => (yields_keyword _).bind fun _ _ =>
      yields_name.bind fun _ _ => yields_constDirectives.bind fun _ _ =>
        yields_unionMembers.bind fun _ _ => .pure trivial
  · exact yields_description.bind fun _ _ => (yields_keyword _).bind fun _ _ =>
      yields_name.bind fun _ _ => yields_constDirectives.bind fun _ _ =>
        (yields_optionalGroup yields_enumValue _ _).bind fun _ _ => .pure trivial
  · exact yields_description.bind fun about _ => (yields_keyword _).bind fun _ _ =>
      (yields_inputBody about).bind fun _ h => .pure h
  · exact yields_description.bind fun _ _ => (yields_keyword _).bind fun _ _ =>
      (yields_punct _).bind fun _ _ => yields_name.bind fun _ _ =>
        (yields_optionalGroup yields_inputValue _ _).bind fun _ _ =>
          yields_constDirectives.bind fun _ _ => (yields_skip? _).bind fun _ _ =>
            (yields_keyword _).bind fun _ _ =>
              (yields_separated yields_directiveLocation _).bind fun _ _ => .pure trivial

theorem yields_extension? {word : String} {rule : Rule TypeSystemItem}
    (h : extension? word = some rule) : rule.Yields TypeSystemItem.Named := by
  unfold extension? at h
  split_ifs at h
  all_goals cases h
  · exact (yields_keyword _).bind fun _ _ => yields_constDirectives.bind fun _ _ =>
      (yields_optionalGroup yields_rootType _ _).bind fun _ _ => (yields_required _).bind fun _ _ =>
        .pure trivial
  · exact (yields_keyword _).bind fun _ _ => yields_name.bind fun _ _ =>
      yields_constDirectives.bind fun _ _ => (yields_required _).bind fun _ _ => .pure trivial
  · exact (yields_keyword _).bind fun _ _ => yields_objectAddition.bind fun _ h => .pure h
  · exact (yields_keyword _).bind fun _ _ => yields_objectAddition.bind fun _ h => .pure h
  · exact (yields_keyword _).bind fun _ _ => yields_name.bind fun _ _ =>
      yields_constDirectives.bind fun _ _ => yields_unionMembers.bind fun _ _ =>
        (yields_required _).bind fun _ _ => .pure trivial
  · exact (yields_keyword _).bind fun _ _ => yields_name.bind fun _ _ =>
      yields_constDirectives.bind fun _ _ =>
        (yields_optionalGroup yields_enumValue _ _).bind fun _ _ =>
          (yields_required _).bind fun _ _ => .pure trivial
  · exact (yields_keyword _).bind fun _ _ => (yields_inputBody none).bind fun _ h =>
      (yields_required _).bind fun _ _ => .pure h
  · exact (yields_keyword _).bind fun _ _ => (yields_punct _).bind fun _ _ =>
      yields_name.bind fun _ _ => yields_constDirectives.bind fun _ _ =>
        (yields_required _).bind fun _ _ => .pure trivial

theorem yields_describable? {word : String} {rule : Rule Definition}
    (h : describable? word = some rule) : rule.Yields Definition.Named := by
  unfold describable? at h
  split at h
  · rename_i item hitem
    cases h
    exact (yields_typeSystemDefinition? hitem).map fun _ h => h
  · split_ifs at h
    · cases h
      exact yields_operation
    · cases h
      exact yields_fragment

theorem yields_extension : extension.Yields Definition.Named := by
  refine yields_lookahead.bind fun t _ => ?_
  split
  · split
    · rename_i hitem
      exact yields_advance.bind fun _ _ => (yields_extension? hitem).bind fun _ h => .pure h
    · exact yields_unexpected t
  · exact yields_unexpected t

theorem yields_undescribed : undescribed.Yields Definition.Named := by
  refine yields_current.bind fun t _ => ?_
  split
  · split
    · rename_i hrule
      exact yields_describable? hrule
    · exact .ite yields_extension (yields_unexpected t)
  · exact yields_unexpected t

theorem yields_described : described.Yields Definition.Named := by
  refine yields_current.bind fun _ _ => yields_lookahead.bind fun t _ => ?_
  split
  · exact yields_fail _ _
  · split
    · rename_i hrule
      exact yields_describable? hrule
    · exact yields_fail _ _
  · exact yields_unexpected t

theorem yields_definition : definition.Yields Definition.Named := by
  refine yields_current.bind fun t _ => ?_
  split
  · exact (yields_selectionSet _).bind fun _ _ => .pure trivial
  · exact yields_described
  · exact yields_described
  · exact yields_undescribed

theorem yields_document : document.Yields Document.Named :=
  (yields_someUntil yields_definition _).bind fun _ h => .pure h

end Grammar

/-- All names in a document are names. -/
theorem Document.named_of_parse {text : List Char} {doc : Document} (h : parse text = .ok doc) :
    doc.Named := by
  unfold parse at h
  obtain ⟨c, hc, h⟩ := Outcome.bind_eq_ok_iff.mp h
  obtain ⟨⟨d, e⟩, hd, h⟩ := Outcome.bind_eq_ok_iff.mp h
  cases h
  exact (Grammar.yields_document c d e
    (Cursor.named_ofStream (TokenStream.named_ofChars text) hc) hd).1

end SchemaToJava.GraphQL
