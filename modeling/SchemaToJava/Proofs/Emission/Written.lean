import SchemaToJava.Proofs.Emission.References

/-!
What stands in the artifacts of a document. All names are names of the document or ones that every
artifact has, all types are known ones or types of the schema, and all values are literals.
-/

namespace SchemaToJava.Emission

open GraphQL Java

structure DataField.Named (f : DataField) : Prop where
  name : IsName f.name
  type : IsName f.type.base
  directives : ∀ d ∈ f.directives, d.Named

structure DataType.Named (d : DataType) : Prop where
  name : IsName d.name
  fields : ∀ f ∈ d.fields, f.Named

/-- An annotation with names, types and values that can be written. -/
structure WrittenAnnotation (base : String) (a : AnnotationUse) : Prop where
  type : IsReference base a.type
  members : ∀ m ∈ a.members, IsWord m.name ∧ ∃ l : Literal, m.value = l.text

structure WrittenField (base : String) (f : FieldDecl) : Prop where
  name : IsWord f.name
  type : IsReference base f.type
  annotations : ∀ a ∈ f.annotations, WrittenAnnotation base a

structure WrittenParameter (base : String) (p : Parameter) : Prop where
  name : IsWord p.name
  type : IsReference base p.type
  annotations : ∀ a ∈ p.annotations, WrittenAnnotation base a

structure WrittenMethod (base : String) (m : MethodDecl) : Prop where
  name : IsWord m.name
  returnType : IsReference base m.returnType
  annotations : ∀ a ∈ m.annotations, WrittenAnnotation base a
  parameters : ∀ p ∈ m.parameters, WrittenParameter base p

structure WrittenClass (base : String) (c : ClassDecl) : Prop where
  package : c.package = typesPackage base
  name : IsWord c.name
  annotations : ∀ a ∈ c.annotations, WrittenAnnotation base a
  fields : ∀ f ∈ c.fields, WrittenField base f

structure WrittenInterface (base : String) (i : InterfaceDecl) : Prop where
  package : i.package = fetchersPackage base
  name : IsWord i.name
  annotations : ∀ a ∈ i.annotations, WrittenAnnotation base a
  methods : ∀ m ∈ i.methods, WrittenMethod base m

section Annotations

variable {P : AnnotationUse → Prop} {ds : List Directive}

/-- What holds of the annotation of every directive of the catalogue holds of all annotations. -/
theorem gives_constraints
    (h : ∀ d ∈ ds, d.name ∈ catalogue → ∀ a, constraint d = .ok a → P a) :
    (constraints ds).Gives fun as => ∀ a ∈ as, P a := by
  induction ds with
  | nil => exact .pure (by simp)
  | cons d rest ih =>
    have hrest := ih fun e he => h e (List.mem_cons_of_mem d he)
    rw [constraints]
    split
    · rename_i hname
      have hd := h d List.mem_cons_self (List.contains_iff_mem.mp hname)
      exact .bind (.silently hd) fun _ ha => .bind hrest fun _ has =>
        .pure (List.forall_mem_cons.mpr ⟨ha, has⟩)
    · exact .note hrest

theorem gives_inputAnnotations (type : TypeExpr) (hnotNull : P notNull)
    (h : ∀ d ∈ ds, d.name ∈ catalogue → ∀ a, constraint d = .ok a → P a) :
    (inputAnnotations type ds).Gives fun as => ∀ a ∈ as, P a := by
  refine .bind (gives_constraints h) fun as has => .pure ?_
  split
  · exact List.forall_mem_cons.mpr ⟨hnotNull, has⟩
  · exact has

end Annotations

section

variable {base : String}

theorem written_marker {package name : String} (h : .inPackage package name ∈ libraryTypes) :
    WrittenAnnotation base (.marker package name) :=
  ⟨.library h, fun _ hm => absurd hm List.not_mem_nil⟩

theorem mem_of_literalArguments {args : List (String × Value)} {ls : List (String × Literal)}
    (h : literalArguments args = .ok ls) : ∀ l ∈ ls, l.1 ∈ args.map (·.1) := by
  induction args generalizing ls with
  | nil =>
    cases h
    simp
  | cons arg rest ih =>
    rw [literalArguments] at h
    obtain ⟨l, -, h⟩ := Outcome.bind_eq_ok_iff.mp h
    cases l with
    | none => exact fun l hl => List.mem_cons_of_mem _ (ih h l hl)
    | some l =>
      obtain ⟨ls', hrest, h⟩ := Outcome.bind_eq_ok_iff.mp h
      cases h
      intro m hm
      rcases List.mem_cons.mp hm with rfl | hm
      · exact List.mem_cons_self
      · exact List.mem_cons_of_mem _ (ih hrest m hm)

theorem written_constraint {d : Directive} (hd : d.Named) (hname : d.name ∈ catalogue)
    {a : AnnotationUse} (h : constraint d = .ok a) : WrittenAnnotation base a := by
  obtain ⟨ls, hls, h⟩ := Outcome.bind_eq_ok_iff.mp h
  cases h
  constructor
  · exact .library (List.mem_append_right _ (List.mem_map_of_mem hname))
  · intro m hm
    obtain ⟨⟨n, l⟩, hl, rfl⟩ := List.mem_map.mp hm
    obtain ⟨arg, harg, hn⟩ := List.mem_map.mp (mem_of_literalArguments hls _ hl)
    have hword : IsWord n := by
      rw [← show arg.1 = n from hn]
      exact isWord_of_isName (hd.arguments arg harg)
    exact ⟨hword, l, rfl⟩

variable (base)

theorem written_inputAnnotations (type : TypeExpr) {ds : List Directive} (h : ∀ d ∈ ds, d.Named) :
    (inputAnnotations type ds).Gives fun as => ∀ a ∈ as, WrittenAnnotation base a :=
  gives_inputAnnotations type (written_marker (by decide)) fun d hd hname _ =>
    written_constraint (h d hd) hname

theorem gives_javaType {name : String} (h : IsName name) :
    (Traced.silently (javaType base name)).Gives (IsReference base) :=
  .silently fun _ => isReference_of_javaType h

theorem gives_requireIdentifier (element : String) {name : String} (h : IsWord name) :
    (Traced.silently (requireIdentifier element name)).Gives IsWord :=
  .silently fun _ hout => (requireIdentifier_eq_ok_iff.mp hout).2 ▸ h

theorem written_dataClassField (kind : TypeKind) {f : DataField} (h : f.Named) :
    (dataClassField base kind f).Gives (WrittenField base) := by
  refine .bind (gives_javaType base h.type) fun type ht => ?_
  have hrest : ∀ as, (∀ a ∈ as, WrittenAnnotation base a) → (do
      let name ← Traced.silently (requireIdentifier "field" f.name)
      return ⟨name, type, as⟩ : Traced FieldDecl).Gives (WrittenField base) := fun as has =>
    .bind (gives_requireIdentifier "field" (isWord_of_isName h.name)) fun _ hn => .pure ⟨hn, ht, has⟩
  cases kind with
  | object => exact hrest [] (by simp)
  | input => exact .bind (written_inputAnnotations base _ h.directives) hrest

theorem written_dataClass (source : Option String) {d : DataType} (h : d.Named) :
    (dataClass base source d).Gives (WrittenClass base) := by
  refine .bind (.mapM fun f hf => written_dataClassField base d.kind (h.fields f hf))
    fun fields hfields => ?_
  refine .bind (gives_requireIdentifier "class" (isWord_of_isName h.name)) fun name hn => .pure ?_
  refine ⟨rfl, hn, ?_, hfields⟩
  have hmarkers : ∀ a ∈ dataClassAnnotations, a.members = [] := by decide
  intro a ha
  refine ⟨.library ?_, fun m hm => ?_⟩
  · exact List.mem_append_left _ (List.mem_append_right _ (List.mem_map_of_mem ha))
  · rw [hmarkers a ha] at hm
    cases hm

theorem written_parameter {v : InputValue} (h : v.Named) :
    (parameter base v).Gives (WrittenParameter base) := by
  refine .bind (gives_javaType base h.type) fun type ht => ?_
  refine .bind (written_inputAnnotations base _ h.directives) fun as has => ?_
  refine .bind (gives_requireIdentifier "parameter" (isWord_of_isName h.name)) fun name hn =>
    .pure ⟨hn, ht, ?_⟩
  intro a ha
  rcases List.mem_append.mp ha with ha | ha
  · exact has a ha
  · rw [List.mem_singleton.mp ha]
    exact written_marker (by decide)

theorem written_environmentParameter : WrittenParameter base environmentParameter :=
  ⟨isWord_of_all (by decide), .library (by decide), fun _ ha => absurd ha List.not_mem_nil⟩

theorem written_method {o : Operation} (h : o.field.Named) :
    (method base o).Gives (WrittenMethod base) := by
  refine .bind (.mapM fun v hv => written_parameter base (h.arguments v hv)) fun ps hps => ?_
  refine .bind (gives_javaType base h.type) fun type ht => ?_
  refine .bind (gives_requireIdentifier "method" (isWord_of_isName h.name)) fun name hn =>
    .pure ⟨hn, ht, ?_, ?_⟩
  · intro a ha
    rw [List.mem_singleton.mp ha]
    cases o.root with
    | query => exact written_marker (by decide)
    | mutation => exact written_marker (by decide)
  · intro p hp
    rcases List.mem_append.mp hp with hp | hp
    · exact hps p hp
    · rw [List.mem_singleton.mp hp]
      exact written_environmentParameter base

theorem written_methods (seen : List (Root × String)) {os : List Operation}
    (h : ∀ o ∈ os, o.field.Named) :
    (methods base seen os).Gives fun ms => ∀ m ∈ ms, WrittenMethod base m := by
  induction os generalizing seen with
  | nil => exact .pure (by simp)
  | cons o rest ih =>
    rw [methods]
    split
    · exact .fail _
    · exact .bind (written_method base (h o List.mem_cons_self)) fun _ hm =>
        .bind (ih _ fun p hp => h p (List.mem_cons_of_mem o hp)) fun _ hms =>
          .pure (List.forall_mem_cons.mpr ⟨hm, hms⟩)

end

theorem named_contribution? {i : TypeSystemItem} (h : i.Named) {d : DataType}
    (hd : contribution? i = some d) : d.Named := by
  unfold contribution? at hd
  split at hd
  · rename_i t
    have ht : t.Named := h
    split at hd
    · cases hd
    · cases hd
      refine ⟨ht.name, fun f hf => ?_⟩
      obtain ⟨g, hg, rfl⟩ := List.mem_map.mp hf
      exact ⟨(ht.fields g hg).name, (ht.fields g hg).type, (ht.fields g hg).directives⟩
  · rename_i t
    have ht : t.Named := h
    split at hd
    · cases hd
    · cases hd
      refine ⟨ht.name, fun f hf => ?_⟩
      obtain ⟨g, hg, rfl⟩ := List.mem_map.mp hf
      exact ⟨(ht.fields g hg).name, (ht.fields g hg).type, (ht.fields g hg).directives⟩
  · cases hd

theorem named_add {d : DataType} (h : d.Named) {fields : List DataField}
    (hfields : ∀ f ∈ fields, f.Named) : (d.add fields).1.Named := by
  induction fields generalizing d with
  | nil => exact h
  | cons f rest ih =>
    rw [DataType.add]
    split
    · exact h
    · refine ih ⟨h.name, fun g hg => ?_⟩ fun g hg => hfields g (List.mem_cons_of_mem f hg)
      rcases List.mem_append.mp hg with hg | hg
      · exact h.fields g hg
      · rw [List.mem_singleton.mp hg]
        exact hfields f List.mem_cons_self

theorem named_addAll {d e : DataType} (h : d.Named) {fields : List DataField}
    (hfields : ∀ f ∈ fields, f.Named) (he : d.addAll fields = .ok e) : e.Named := by
  have hadd := named_add h hfields
  unfold DataType.addAll at he
  split at he
  · rename_i heq
    cases he
    rwa [heq] at hadd
  · cases he

namespace Collection

def Named (c : Collection) : Prop := ∀ d ∈ c, DataType.Named d

theorem Named.find? {c : Collection} (h : c.Named) {name : String} {d : DataType}
    (hd : c.find? name = some d) : d.Named := h d (List.mem_of_find?_eq_some hd)

theorem Named.replace {c : Collection} (h : c.Named) {d : DataType} (hd : d.Named) :
    (c.replace d).Named := by
  intro e he
  obtain ⟨f, hf, rfl⟩ := List.mem_map.mp he
  split
  · exact hd
  · exact h f hf

theorem Named.define {c e : Collection} (h : c.Named) {d : DataType} (hd : d.Named)
    (he : c.define d = .ok e) : e.Named := by
  unfold Collection.define at he
  split at he
  · obtain ⟨new, hnew, he⟩ := Outcome.bind_eq_ok_iff.mp he
    cases he
    have hempty : (⟨d.name, d.kind, []⟩ : DataType).Named := ⟨hd.name, by simp⟩
    intro f hf
    rcases List.mem_append.mp hf with hf | hf
    · exact h f hf
    · rw [List.mem_singleton.mp hf]
      exact named_addAll hempty hd.fields hnew
  · rename_i there hthere
    split at he
    · obtain ⟨new, hnew, he⟩ := Outcome.bind_eq_ok_iff.mp he
      cases he
      exact h.replace (named_addAll (h.find? hthere) hd.fields hnew)
    · cases he

theorem Named.extend {c : Collection} (h : c.Named) {d : DataType} (hd : d.Named) :
    (c.extend d).Gives Named := by
  have hskip : (extend.skip c d).Gives Named := .note (.pure h)
  unfold Collection.extend
  split
  · exact hskip
  · rename_i there hthere
    split
    · exact .bind (.silently fun _ => named_addAll (h.find? hthere) hd.fields) fun _ hnew =>
        .pure (h.replace hnew)
    · exact hskip

end Collection

theorem named_definedTypes {doc : Document} (h : doc.Named) :
    ∀ d ∈ definedTypes doc, d.Named := by
  intro d hd
  obtain ⟨x, hx, hsome⟩ := List.mem_filterMap.mp hd
  split at hsome
  · exact named_contribution? (h _ hx) hsome
  · cases hsome

theorem named_extendedTypes {doc : Document} (h : doc.Named) :
    ∀ d ∈ extendedTypes doc, d.Named := by
  intro d hd
  obtain ⟨x, hx, hsome⟩ := List.mem_filterMap.mp hd
  split at hsome
  · exact named_contribution? (h _ hx) hsome
  · cases hsome

theorem named_dataTypes {doc : Document} (h : doc.Named) :
    (dataTypes doc).Gives Collection.Named := by
  have hdefined : ∀ c, (definedTypes doc).foldlM Collection.define [] = .ok c → c.Named := fun _ =>
    Outcome.foldlM_induct (fun _ d hd _ hc => hc.define (named_definedTypes h d hd))
      (fun _ hd => absurd hd List.not_mem_nil)
  exact .bind (.silently hdefined) fun _ hc =>
    .foldlM (fun _ d hd hc => hc.extend (named_extendedTypes h d hd)) hc

theorem written_dataClasses (base : String) {doc : Document} (h : doc.Named)
    (source : Option String) :
    (dataClasses base doc source).Gives fun cs => ∀ c ∈ cs, WrittenClass base c :=
  .bind (named_dataTypes h) fun _ hts =>
    .bind (.mapM fun t ht => written_dataClass base source (hts t ht)) fun _ hcs =>
      .note (.pure hcs)

theorem named_operations {doc : Document} (h : doc.Named) :
    ∀ o ∈ operations doc, o.field.Named := by
  intro o ho
  obtain ⟨b, hb, ho⟩ := List.mem_flatMap.mp ho
  obtain ⟨f, hf, rfl⟩ := List.mem_map.mp ho
  obtain ⟨x, hx, hsome⟩ := List.mem_filterMap.mp hb
  have hblock : ∀ ext i, i.Named → rootBlock? ext i = some b → f.Named := by
    intro ext i hi hsome
    unfold rootBlock? at hsome
    split at hsome
    · rename_i t
      obtain ⟨r, -, rfl⟩ := Option.map_eq_some_iff.mp hsome
      exact ObjectType.Named.fields hi f hf
    · cases hsome
  split at hsome
  · exact hblock _ _ (h _ hx) hsome
  · exact hblock _ _ (h _ hx) hsome
  · cases hsome

theorem isWord_of_isIdentifier {name : String} (h : isIdentifier name = true)
    (hlast : name.toList.getLast? ≠ some '\n') : IsWord name := by
  have hshape := (isIdentifier_iff.mp h).1
  unfold hasIdentifierShape withoutLastLineEnd at hshape
  rw [if_neg hlast] at hshape
  refine ⟨ne_empty_of_isIdentifier h, ?_⟩
  split at hshape
  · cases hshape
  · rename_i c rest heq
    rw [Bool.and_eq_true, List.all_eq_true] at hshape
    rw [heq]
    exact List.forall_mem_cons.mpr ⟨isIdentifierPart_of_start hshape.1, hshape.2⟩

theorem isWord_fetcherName {fileName : String} (h : isIdentifier (fetcherName fileName) = true) :
    IsWord (fetcherName fileName) := by
  refine isWord_of_isIdentifier h ?_
  simp [fetcherName]

theorem written_fetcher (base : String) {doc : Document} (h : doc.Named) (fileName : String) :
    (fetcher base doc fileName).Gives (WrittenInterface base) := by
  intro i hi
  obtain ⟨hname, ms, hms, rfl⟩ := fetcher_eq_ok_iff.mp hi
  refine ⟨rfl, isWord_fetcherName hname, ?_, written_methods base [] (named_operations h) ms hms⟩
  intro a ha
  rw [List.mem_singleton.mp ha]
  exact written_marker (by decide)

end SchemaToJava.Emission
