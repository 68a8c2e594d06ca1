import SchemaToJava.Proofs.Emission.Constraint
import SchemaToJava.Proofs.Emission.Written

/-!
Which names keep artifacts from being built. A name of a document has the shape of an identifier, so
it can be used unless Java reserves it; the fault is about the first name that it reserves.
-/

namespace SchemaToJava.Emission

open GraphQL Java

theorem isIdentifierStart_of_isNameStart {c : Char} (h : isNameStart c = true) :
    isIdentifierStart c = true := by
  simp only [isNameStart, Bool.or_eq_true, decide_eq_true_eq] at h
  simp only [isIdentifierStart, Bool.or_eq_true, beq_iff_eq]
  exact .inl h

theorem isIdentifierPart_of_isNameContinue {c : Char} (h : isNameContinue c = true) :
    isIdentifierPart c = true := by
  rcases Bool.or_eq_true_iff.mp h with h | h
  · exact isIdentifierPart_of_start (isIdentifierStart_of_isNameStart h)
  · exact Bool.or_eq_true_iff.mpr (.inr h)

theorem lineEnd_not_last {s : String} (h : IsName s) : s.toList.getLast? ≠ some '\n' := fun hlast =>
  absurd (h.parts '\n' (List.mem_of_getLast? hlast)) (by decide)

theorem isIdentifierStart_of_isName {s : String} (h : IsName s) :
    ∃ c rest, s.toList = c :: rest ∧ isIdentifierStart c = true := by
  cases hs : s.toList with
  | nil => exact absurd (String.toList_eq_nil_iff.mp hs) h.nonempty
  | cons c rest =>
    have hstart := h.start c (by rw [hs]; rfl)
    exact ⟨c, rest, rfl, isIdentifierStart_of_isNameStart hstart⟩

theorem isIdentifierPart_of_isName {s : String} (h : IsName s) :
    ∀ c ∈ s.toList, isIdentifierPart c = true :=
  fun c hc => isIdentifierPart_of_isNameContinue (h.parts c hc)

theorem hasIdentifierShape_of_isName {s : String} (h : IsName s) :
    hasIdentifierShape s.toList = true := by
  obtain ⟨c, rest, hs, hstart⟩ := isIdentifierStart_of_isName h
  have hparts := isIdentifierPart_of_isName h
  rw [hasIdentifierShape, withoutLastLineEnd, if_neg (lineEnd_not_last h), hs]
  rw [hs, List.forall_mem_cons] at hparts
  exact Bool.and_eq_true_iff.mpr ⟨hstart, List.all_eq_true.mpr hparts.2⟩

theorem isIdentifier_iff_of_isName {s : String} (h : IsName s) :
    isIdentifier s = true ↔ s ∉ reservedWords := by
  rw [isIdentifier_iff, and_iff_right (hasIdentifierShape_of_isName h)]

def firstReserved (uses : List (String × String)) : Option (String × String) :=
  uses.find? fun u => reservedWords.contains u.2

theorem firstReserved_append (us vs : List (String × String)) :
    firstReserved (us ++ vs) = (firstReserved us).or (firstReserved vs) := List.find?_append

/-- The computation is refused for the first name that is a reserved word, and for nothing else. -/
structure Screens {α : Type} (uses : List (String × String)) (x : Traced α) : Prop where
  accepted : firstReserved uses = none → ∃ a, x.outcome = .ok a
  refused : ∀ element name, firstReserved uses = some (element, name) →
    x.outcome = .error (.notIdentifier element name)

namespace Screens

variable {α β : Type} {us vs : List (String × String)} {x : Traced α}

theorem eq_error_iff (h : Screens us x) {f : Fault} :
    x.outcome = .error f ↔
      ∃ element name, firstReserved us = some (element, name) ∧
        f = .notIdentifier element name := by
  constructor
  · intro hx
    cases hfirst : firstReserved us with
    | none =>
      obtain ⟨a, ha⟩ := h.accepted hfirst
      rw [ha] at hx
      cases hx
    | some u =>
      rw [h.refused u.1 u.2 hfirst] at hx
      exact ⟨u.1, u.2, rfl, (Except.error.inj hx).symm⟩
  · rintro ⟨element, name, hfirst, rfl⟩
    exact h.refused element name hfirst

theorem succeeds_iff (h : Screens us x) :
    (∃ a, x.outcome = .ok a) ↔ ∀ u ∈ us, u.2 ∉ reservedWords := by
  have hnone : firstReserved us = none ↔ ∀ u ∈ us, u.2 ∉ reservedWords := by
    simp [firstReserved]
  rw [← hnone]
  refine ⟨fun ⟨a, ha⟩ => ?_, h.accepted⟩
  cases hfirst : firstReserved us with
  | none => rfl
  | some u =>
    rw [h.refused u.1 u.2 hfirst] at ha
    cases ha

theorem of_ok {a : α} (h : x.outcome = .ok a) : Screens [] x :=
  ⟨fun _ => ⟨a, h⟩, fun _ _ hfirst => (by cases hfirst)⟩

theorem pure (a : α) : Screens [] (pure a : Traced α) := of_ok rfl

theorem bind (hx : Screens us x) {f : α → Traced β}
    (hf : ∀ a, x.outcome = .ok a → Screens vs (f a)) : Screens (us ++ vs) (x >>= f) := by
  cases hfirst : firstReserved us with
  | none =>
    obtain ⟨a, ha⟩ := hx.accepted hfirst
    have hrest : firstReserved (us ++ vs) = firstReserved vs := by
      rw [firstReserved_append, hfirst, Option.none_or]
    have houtcome : (x >>= f).outcome = (f a).outcome := by
      rw [Traced.outcome_bind, ha]
      rfl
    refine ⟨fun h => ?_, fun element name h => ?_⟩
    · rw [houtcome]
      exact (hf a ha).accepted (hrest ▸ h)
    · rw [houtcome]
      exact (hf a ha).refused element name (hrest ▸ h)
  | some u =>
    have hwhole : firstReserved (us ++ vs) = some u := by
      rw [firstReserved_append, hfirst, Option.some_or]
    refine ⟨fun h => ?_, fun element name h => ?_⟩
    · rw [hwhole] at h
      cases h
    · rw [hwhole] at h
      cases h
      rw [Traced.outcome_bind, hx.refused element name hfirst]
      rfl

theorem bind_cons {u : String × String} (hx : Screens [u] x) {f : α → Traced β}
    (hf : ∀ a, x.outcome = .ok a → Screens vs (f a)) : Screens (u :: vs) (x >>= f) := hx.bind hf

theorem bind_of_ok {a : α} (hx : x.outcome = .ok a) {f : α → Traced β} (hf : Screens vs (f a)) :
    Screens vs (x >>= f) := by
  refine (of_ok hx).bind fun b hb => ?_
  rw [hx] at hb
  cases hb
  exact hf

theorem mapM {f : α → Traced β} {uses : α → List (String × String)} {xs : List α}
    (hf : ∀ a ∈ xs, Screens (uses a) (f a)) : Screens (xs.flatMap uses) (xs.mapM f) := by
  induction xs with
  | nil => exact pure []
  | cons a xs ih =>
    rw [List.mapM_cons, List.flatMap_cons]
    have hrest := ih fun b hb => hf b (List.mem_cons_of_mem a hb)
    refine bind (hf a List.mem_cons_self) fun b _ => ?_
    rw [← List.append_nil (List.flatMap uses xs)]
    exact bind hrest fun bs _ => pure (b :: bs)

end Screens

theorem screens_requireIdentifier (element : String) {name : String} (h : IsName name) :
    Screens [(element, name)] (Traced.silently (requireIdentifier element name)) := by
  have hiff := isIdentifier_iff_of_isName h
  by_cases hname : name ∈ reservedWords
  · have hfirst : firstReserved [(element, name)] = some (element, name) := by
      simp [firstReserved, hname]
    have hid : ¬ isIdentifier name = true := fun h => hiff.mp h hname
    refine ⟨fun h => (by rw [hfirst] at h; cases h), fun e n h => ?_⟩
    rw [hfirst] at h
    cases h
    exact if_neg hid
  · have hfirst : firstReserved [(element, name)] = none := by
      simp [firstReserved, hname]
    refine ⟨fun _ => ⟨name, if_pos (hiff.mpr hname)⟩, fun e n h => ?_⟩
    rw [hfirst] at h
    cases h

theorem not_reserved_of_lookup {name : String} {t : TypeRef}
    (h : builtinScalars.lookup name = some t) : name ∉ reservedWords := by
  have hkeys : ∀ b ∈ builtinScalars, b.1 ∉ reservedWords := by decide
  exact hkeys (name, t) (Entries.mem_of_lookup h)

theorem screens_javaType (base : String) {name : String} (h : IsName name) :
    Screens [("type", name)] (Traced.silently (javaType base name)) := by
  have hrequire := screens_requireIdentifier "type" h
  cases hbuiltin : builtinScalars.lookup name with
  | some t =>
    have hfirst : firstReserved [("type", name)] = none := by
      simp [firstReserved, not_reserved_of_lookup hbuiltin]
    refine ⟨fun _ => ⟨t, by simp [javaType, hbuiltin]⟩, fun e n h => ?_⟩
    rw [hfirst] at h
    cases h
  | none =>
    have hreference : Traced.silently (javaType base name) =
        Traced.silently (requireIdentifier "type" name) >>= fun n =>
          Pure.pure (TypeRef.inPackage (typesPackage base) n) := by
      rw [javaType, hbuiltin]
      cases requireIdentifier "type" name <;> rfl
    rw [hreference]
    exact hrequire.bind fun n _ => .pure _

/-- The names that the field of a class asks for, in the order in which they are looked at. -/
def DataField.uses (f : DataField) : List (String × String) :=
  [("type", f.type.base), ("field", f.name)]

def DataType.uses (d : DataType) : List (String × String) :=
  d.fields.flatMap DataField.uses ++ [("class", d.name)]

theorem screens_dataClassField (base : String) (kind : TypeKind) {f : DataField} (hf : f.Named)
    (hshort : ShortIntegers f.directives) : Screens f.uses (dataClassField base kind f) := by
  have hname : ∀ (type : TypeRef) (annotations : List AnnotationUse),
      Screens [("field", f.name)] (do
        let name ← Traced.silently (requireIdentifier "field" f.name)
        return (⟨name, type, annotations⟩ : FieldDecl)) := fun type annotations =>
    (screens_requireIdentifier "field" hf.name).bind fun _ _ => .pure _
  rw [dataClassField]
  refine (screens_javaType base hf.type).bind_cons fun type _ => ?_
  cases kind with
  | object => exact .bind_of_ok rfl (hname type [])
  | input =>
    obtain ⟨as, has⟩ := inputAnnotations_ok f.type hf.directives hshort
    exact .bind_of_ok has (hname type as)

theorem screens_dataClass (base : String) (source : Option String) {d : DataType} (hd : d.Named)
    (hshort : ∀ f ∈ d.fields, ShortIntegers f.directives) :
    Screens d.uses (dataClass base source d) := by
  have hfields : Screens (d.fields.flatMap DataField.uses)
      (d.fields.mapM (dataClassField base d.kind)) :=
    .mapM fun f hf => screens_dataClassField base d.kind (hd.fields f hf) (hshort f hf)
  rw [dataClass]
  refine hfields.bind fun fs _ => ?_
  exact (screens_requireIdentifier "class" hd.name).bind fun n _ => .pure _

def parameterUses (a : InputValue) : List (String × String) :=
  [("type", a.type.base), ("parameter", a.name)]

def Operation.uses (o : Operation) : List (String × String) :=
  o.field.arguments.flatMap parameterUses ++
    [("type", o.field.type.base), ("method", o.field.name)]

theorem screens_parameter (base : String) {a : InputValue} (ha : a.Named)
    (hshort : ShortIntegers a.directives) : Screens (parameterUses a) (parameter base a) := by
  obtain ⟨as, has⟩ := inputAnnotations_ok a.type ha.directives hshort
  rw [parameter]
  refine (screens_javaType base ha.type).bind_cons fun t _ => ?_
  refine .bind_of_ok has ?_
  exact (screens_requireIdentifier "parameter" ha.name).bind fun n _ => .pure _

theorem screens_method (base : String) {o : Operation} (ho : o.field.Named)
    (hshort : ∀ a ∈ o.field.arguments, ShortIntegers a.directives) :
    Screens o.uses (method base o) := by
  have hparameters : Screens (o.field.arguments.flatMap parameterUses)
      (o.field.arguments.mapM (parameter base)) :=
    .mapM fun a ha => screens_parameter base (ho.arguments a ha) (hshort a ha)
  rw [method]
  refine hparameters.bind fun ps _ => ?_
  refine (screens_javaType base ho.type).bind_cons fun t _ => ?_
  exact (screens_requireIdentifier "method" ho.name).bind fun n _ => .pure _

end SchemaToJava.Emission
