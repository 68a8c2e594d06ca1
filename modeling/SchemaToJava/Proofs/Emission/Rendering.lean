import Mathlib
import SchemaToJava.Proofs.Emission.Written
import SchemaToJava.Proofs.Java.SourceText

/-!
Reading what was generated. The file of an artifact says everything that stands in the artifact, so
the artifact is read back from it, and different ones have different files.
-/

namespace SchemaToJava.Emission

open GraphQL Java

theorem isQualified_of_isWord {s : String} (h : IsWord s) : IsQualified s :=
  ⟨h.nonempty, fun c hc => isQualifiedPart_of_part (h.parts c hc)⟩

theorem isQualified_append {package name : String} (hp : IsQualified package)
    (hn : IsQualified name) : IsQualified (package ++ "." ++ name) := by
  constructor
  · intro h
    exact hn.nonempty (String.append_eq_empty_iff.mp h).2
  · intro c hc
    rw [String.toList_append, String.toList_append, List.mem_append, List.mem_append] at hc
    rcases hc with (hc | hc) | hc
    · exact hp.parts c hc
    · rw [List.mem_singleton.mp hc]
      decide
    · exact hn.parts c hc

theorem isQualified_canonicalName {t : TypeRef} (hname : IsWord t.simpleName)
    (hpackage : ∀ p, t.package = some p → IsQualified p) : IsQualified t.canonicalName := by
  unfold TypeRef.canonicalName
  split
  · exact isQualified_of_isWord hname
  · rename_i p hp
    exact isQualified_append (hpackage p hp) (isQualified_of_isWord hname)

theorem isQualified_spelling (s : ImportScope) {t : TypeRef} (hname : IsWord t.simpleName)
    (hpackage : ∀ p, t.package = some p → IsQualified p) : IsQualified (s.spelling t) := by
  unfold ImportScope.spelling
  split
  · exact isQualified_of_isWord hname
  · exact isQualified_canonicalName hname hpackage

/-- A package name without a line end, which no file could hold. -/
structure IsPackage (package : String) : Prop where
  name : isPackageName package = true
  line : '\n' ∉ package.toList

theorem IsPackage.isQualified {package : String} (h : IsPackage package) : IsQualified package := by
  constructor
  · rintro rfl
    exact absurd h.name (by decide)
  · intro c hc
    rcases mem_segment_of_mem hc with rfl | ⟨s, hs, hcs⟩
    · decide
    · have hshape := (isIdentifier_iff.mp (isPackageName_iff.mp h.name s hs)).1
      rcases all_of_hasIdentifierShape hshape c hcs with hpart | rfl
      · exact isQualifiedPart_of_part hpart
      · exact absurd hc h.line

theorem IsReference.isQualified_package {base : String} (hbase : IsQualified base) {t : TypeRef}
    (h : IsReference base t) : ∀ p, t.package = some p → IsQualified p := by
  intro p hp
  cases h with
  | primitive => cases hp
  | library h =>
    have hall : ∀ u ∈ libraryTypes, u.package.all (fun p => p != "" &&
        p.toList.all isQualifiedPart) = true := by
      decide +kernel
    have hpackage := hall t h
    rw [hp, Option.all_some, Bool.and_eq_true, bne_iff_ne, List.all_eq_true] at hpackage
    exact ⟨hpackage.1, hpackage.2⟩
  | dataClass =>
    cases hp
    exact isQualified_append hbase (isQualified_of_all (by decide))

theorem mem_of_mem_groupedMembers {ms : List Member} {g : String × List String}
    (h : g ∈ groupedMembers ms) : g.1 ∈ ms.map (·.name) ∧ ∀ v ∈ g.2, v ∈ ms.map (·.value) := by
  obtain ⟨n, hn, rfl⟩ := List.mem_map.mp h
  refine ⟨List.mem_eraseDups.mp hn, fun v hv => ?_⟩
  obtain ⟨m, hm, rfl⟩ := List.mem_map.mp hv
  exact List.mem_map_of_mem (List.mem_filter.mp hm).1

section Legible

variable {base : String} {f : TypeRef → String} (hf : ∀ t, IsReference base t → IsQualified (f t))

include hf

theorem WrittenAnnotation.legible {a : AnnotationUse} (h : WrittenAnnotation base a) :
    (a.outline.map f id).Legible := by
  refine ⟨hf _ h.type, fun m hm => ?_⟩
  obtain ⟨g, hg, rfl⟩ := List.mem_map.mp hm
  obtain ⟨u, hu, hn⟩ := List.mem_map.mp (mem_of_mem_groupedMembers hg).1
  change IsWord g.1
  rw [← hn]
  exact (h.members u hu).1

theorem legible_annotations {as : List AnnotationUse} (h : ∀ a ∈ as, WrittenAnnotation base a) :
    ∀ b ∈ (as.map (·.outline)).map (·.map f id), b.Legible := by
  intro b hb
  rw [List.map_map] at hb
  obtain ⟨a, ha, rfl⟩ := List.mem_map.mp hb
  exact (h a ha).legible hf

theorem WrittenField.legible {d : FieldDecl} (h : WrittenField base d) :
    (d.outline.map f id).Legible :=
  ⟨h.name, hf _ h.type, legible_annotations hf h.annotations⟩

theorem WrittenParameter.legible {p : Parameter} (h : WrittenParameter base p) :
    (p.outline.map f id).Legible :=
  ⟨h.name, hf _ h.type, legible_annotations hf h.annotations⟩

theorem WrittenMethod.legible {m : MethodDecl} (h : WrittenMethod base m) :
    (m.outline.map f id).Legible := by
  refine ⟨h.name, hf _ h.returnType, legible_annotations hf h.annotations, fun q hq => ?_⟩
  obtain ⟨p', hp', rfl⟩ := List.mem_map.mp hq
  obtain ⟨p, hp, rfl⟩ := List.mem_map.mp hp'
  exact (h.parameters p hp).legible hf

theorem WrittenClass.legible {c : ClassDecl} (h : WrittenClass base c)
    (hpackage : IsQualified c.package) : ((Artifact.ofClass c).outline.map f id).Legible := by
  refine ⟨hpackage, h.name, legible_annotations hf h.annotations, fun q hq => ?_⟩
  obtain ⟨d', hd', rfl⟩ := List.mem_map.mp hq
  obtain ⟨d, hd, rfl⟩ := List.mem_map.mp hd'
  exact (h.fields d hd).legible hf

theorem WrittenInterface.legible {i : InterfaceDecl} (h : WrittenInterface base i)
    (hpackage : IsQualified i.package) : ((Artifact.ofInterface i).outline.map f id).Legible := by
  refine ⟨hpackage, h.name, legible_annotations hf h.annotations, fun q hq => ?_⟩
  obtain ⟨m', hm', rfl⟩ := List.mem_map.mp hq
  obtain ⟨m, hm, rfl⟩ := List.mem_map.mp hm'
  exact (h.methods m hm).legible hf

end Legible

theorem exists_map_eq {α β γ : Type} {f : α → γ} {g : β → γ} {xs : List β}
    (h : ∀ x ∈ xs, ∃ y, f y = g x) : ∃ ys : List α, ys.map f = xs.map g := by
  induction xs with
  | nil => exact ⟨[], rfl⟩
  | cons x xs ih =>
    obtain ⟨y, hy⟩ := h x List.mem_cons_self
    obtain ⟨ys, hys⟩ := ih fun z hz => h z (List.mem_cons_of_mem x hz)
    exact ⟨y :: ys, by rw [List.map_cons, List.map_cons, hy, hys]⟩

section Literals

variable {base : String}

theorem WrittenAnnotation.exists_outline {a : AnnotationUse} (h : WrittenAnnotation base a) :
    ∃ o : Outline.Tag TypeRef Literal, o.map id Literal.text = a.outline := by
  have hgroup : ∀ g ∈ groupedMembers a.members, ∃ p : String × List Literal,
      (p.1, p.2.map Literal.text) = g := by
    intro g hg
    have hvalue : ∀ v ∈ g.2, ∃ l : Literal, l.text = v := by
      intro v hv
      obtain ⟨m, hm, rfl⟩ := List.mem_map.mp ((mem_of_mem_groupedMembers hg).2 v hv)
      obtain ⟨l, hl⟩ := (h.members m hm).2
      exact ⟨l, hl.symm⟩
    obtain ⟨ls, hls⟩ := exists_map_eq (g := id) hvalue
    rw [List.map_id] at hls
    exact ⟨(g.1, ls), Prod.ext rfl hls⟩
  obtain ⟨ms, hms⟩ := exists_map_eq (g := id) hgroup
  rw [List.map_id] at hms
  refine ⟨⟨a.type, ms⟩, ?_⟩
  unfold Outline.Tag.map AnnotationUse.outline
  rw [← hms]
  rfl

theorem exists_annotations {as : List AnnotationUse} (h : ∀ a ∈ as, WrittenAnnotation base a) :
    ∃ os : List (Outline.Tag TypeRef Literal),
      os.map (·.map id Literal.text) = as.map (·.outline) :=
  exists_map_eq fun a ha => (h a ha).exists_outline

theorem WrittenField.exists_outline {d : FieldDecl} (h : WrittenField base d) :
    ∃ o : Outline.Variable TypeRef Literal, o.map id Literal.text = d.outline := by
  obtain ⟨as, has⟩ := exists_annotations h.annotations
  refine ⟨⟨d.name, d.type, as⟩, ?_⟩
  unfold Outline.Variable.map FieldDecl.outline
  rw [← has]
  rfl

theorem WrittenParameter.exists_outline {p : Parameter} (h : WrittenParameter base p) :
    ∃ o : Outline.Variable TypeRef Literal, o.map id Literal.text = p.outline := by
  obtain ⟨as, has⟩ := exists_annotations h.annotations
  refine ⟨⟨p.name, p.type, as⟩, ?_⟩
  unfold Outline.Variable.map Parameter.outline
  rw [← has]
  rfl

theorem WrittenMethod.exists_outline {m : MethodDecl} (h : WrittenMethod base m) :
    ∃ o : Outline.Method TypeRef Literal, o.map id Literal.text = m.outline := by
  obtain ⟨as, has⟩ := exists_annotations h.annotations
  obtain ⟨ps, hps⟩ := exists_map_eq fun p hp => (h.parameters p hp).exists_outline
  refine ⟨⟨m.name, m.returnType, as, ps⟩, ?_⟩
  unfold Outline.Method.map MethodDecl.outline
  rw [← has, ← hps]
  rfl

theorem WrittenClass.exists_outline {c : ClassDecl} (h : WrittenClass base c) :
    ∃ o : Outline TypeRef Literal, o.map id Literal.text = (Artifact.ofClass c).outline := by
  obtain ⟨as, has⟩ := exists_annotations h.annotations
  obtain ⟨fs, hfs⟩ := exists_map_eq fun f hf => (h.fields f hf).exists_outline
  refine ⟨⟨c.package, c.name, as, .fields fs⟩, ?_⟩
  simp only [Outline.map, Outline.Body.map, Artifact.outline]
  rw [← has, ← hfs]

theorem WrittenInterface.exists_outline {i : InterfaceDecl} (h : WrittenInterface base i) :
    ∃ o : Outline TypeRef Literal, o.map id Literal.text = (Artifact.ofInterface i).outline := by
  obtain ⟨as, has⟩ := exists_annotations h.annotations
  obtain ⟨ms, hms⟩ := exists_map_eq fun m hm => (h.methods m hm).exists_outline
  refine ⟨⟨i.package, i.name, as, .methods ms⟩, ?_⟩
  simp only [Outline.map, Outline.Body.map, Artifact.outline]
  rw [← has, ← hms]

end Literals

section References

variable {base : String}

theorem isReference_annotations {as : List AnnotationUse}
    (h : ∀ a ∈ as, WrittenAnnotation base a) : ∀ t ∈ as.map (·.type), IsReference base t := by
  intro t ht
  obtain ⟨a, ha, rfl⟩ := List.mem_map.mp ht
  exact (h a ha).type

theorem WrittenField.isReference {f : FieldDecl} (h : WrittenField base f) :
    ∀ t ∈ f.references, IsReference base t := by
  intro t ht
  rcases List.mem_append.mp ht with ht | ht
  · exact isReference_annotations h.annotations t ht
  · exact List.mem_singleton.mp ht ▸ h.type

theorem WrittenParameter.isReference {p : Parameter} (h : WrittenParameter base p) :
    ∀ t ∈ p.references, IsReference base t := by
  intro t ht
  rcases List.mem_append.mp ht with ht | ht
  · exact isReference_annotations h.annotations t ht
  · exact List.mem_singleton.mp ht ▸ h.type

theorem WrittenMethod.isReference {m : MethodDecl} (h : WrittenMethod base m) :
    ∀ t ∈ m.references, IsReference base t := by
  intro t ht
  rcases List.mem_append.mp ht with ht | ht
  · exact isReference_annotations h.annotations t ht
  · rcases List.mem_cons.mp ht with rfl | ht
    · exact h.returnType
    · obtain ⟨p, hp, ht⟩ := List.mem_flatMap.mp ht
      exact (h.parameters p hp).isReference t ht

theorem WrittenClass.isReference {c : ClassDecl} (h : WrittenClass base c) :
    ∀ t ∈ (Artifact.ofClass c).references, IsReference base t := by
  intro t ht
  rcases List.mem_append.mp ht with ht | ht
  · exact isReference_annotations h.annotations t ht
  · obtain ⟨f, hf, ht⟩ := List.mem_flatMap.mp ht
    exact (h.fields f hf).isReference t ht

theorem WrittenInterface.isReference {i : InterfaceDecl} (h : WrittenInterface base i) :
    ∀ t ∈ (Artifact.ofInterface i).references, IsReference base t := by
  intro t ht
  rcases List.mem_append.mp ht with ht | ht
  · exact isReference_annotations h.annotations t ht
  · obtain ⟨m, hm, ht⟩ := List.mem_flatMap.mp ht
    exact (h.methods m hm).isReference t ht

end References

/-- What data classes and fetcher interfaces of documents have in common. -/
structure WrittenArtifact (base : String) (a : Artifact) : Prop where
  package : a.package = typesPackage base ∨ a.package = fetchersPackage base
  name : IsWord a.name
  references : ∀ t ∈ a.references, IsReference base t
  literals : ∃ o : Outline TypeRef Literal, o.map id Literal.text = a.outline
  legible : ∀ f : TypeRef → String, (∀ t, IsReference base t → IsQualified (f t)) →
    IsQualified a.package → (a.outline.map f id).Legible

theorem WrittenClass.written {base : String} {c : ClassDecl} (h : WrittenClass base c) :
    WrittenArtifact base (.ofClass c) :=
  ⟨.inl h.package, h.name, h.isReference, h.exists_outline, fun _ hf => h.legible hf⟩

theorem WrittenInterface.written {base : String} {i : InterfaceDecl} (h : WrittenInterface base i) :
    WrittenArtifact base (.ofInterface i) :=
  ⟨.inr h.package, h.name, h.isReference, h.exists_outline, fun _ hf => h.legible hf⟩

namespace WrittenArtifact

variable {base : String} {a : Artifact}

theorem dot_not_mem (h : WrittenArtifact base a) :
    ∀ e ∈ a.scope.claimed, '.' ∉ e.2.simpleName.toList := by
  intro e he
  rcases Artifact.mem_scope he with heq | ⟨hmem, -⟩
  · rw [heq]
    exact h.name.not_mem (by decide)
  · exact (h.references _ hmem).plain.simple

theorem isQualified_package (h : WrittenArtifact base a) (hbase : IsQualified base) :
    IsQualified a.package := by
  rcases h.package with hp | hp
  · rw [hp]
    exact isQualified_append hbase (isQualified_of_all (by decide))
  · rw [hp]
    exact isQualified_append hbase (isQualified_of_all (by decide))

theorem imported (h : WrittenArtifact base a) {i : String} (hi : i ∈ a.scope.imports) :
    i = a.typeRef.canonicalName ∨ ∃ t, IsReference base t ∧ i = t.canonicalName := by
  obtain ⟨e, he, -, rfl⟩ := ImportScope.mem_imports.mp hi
  rcases Artifact.mem_scope he with heq | ⟨hmem, -⟩
  · exact .inl (congrArg _ heq)
  · exact .inr ⟨e.2, h.references _ hmem, rfl⟩

theorem isQualified_imports (h : WrittenArtifact base a) (hbase : IsQualified base) :
    ∀ i ∈ a.scope.imports, IsQualified i := by
  intro i hi
  rcases h.imported hi with rfl | ⟨t, ht, rfl⟩
  · exact isQualified_append (h.isQualified_package hbase) (isQualified_of_isWord h.name)
  · exact isQualified_canonicalName ht.isWord_simpleName (ht.isQualified_package hbase)

theorem decode_render (h : WrittenArtifact base a) (hbase : IsQualified base)
    {o : Outline TypeRef Literal} (ho : o.map id Literal.text = a.outline) :
    Outline.decode a.render = some o := by
  have hspelling : ∀ t, IsReference base t → IsQualified (a.scope.spelling t) := fun t ht =>
    isQualified_spelling a.scope ht.isWord_simpleName (ht.isQualified_package hbase)
  have hpackage : a.outline.package = a.scope.package := by
    rw [Artifact.package_scope]
    cases a <;> rfl
  refine Outline.decode_render ho (h.legible _ hspelling (h.isQualified_package hbase))
    (h.isQualified_imports hbase) fun t ht => ?_
  have href := h.references t ht
  rw [hpackage]
  exact a.sound_scope.meaning_spelling h.dot_not_mem href.plain href.lang_iff

end WrittenArtifact

inductive Generated : Artifact → Prop
  | dataClass {base : String} (hbase : IsPackage base) {text : List Char} {doc : Document}
    (hdoc : Document.parse text = .ok doc) {source : Option String} {cs : List ClassDecl}
    (h : (dataClasses base doc source).outcome = .ok cs) {c : ClassDecl} (hc : c ∈ cs) :
    Generated (.ofClass c)
  | fetcher {base : String} (hbase : IsPackage base) {text : List Char} {doc : Document}
    (hdoc : Document.parse text = .ok doc) {fileName : String} {i : InterfaceDecl}
    (h : (fetcher base doc fileName).outcome = .ok i) : Generated (.ofInterface i)

theorem Generated.written {a : Artifact} (h : Generated a) :
    ∃ base, IsPackage base ∧ WrittenArtifact base a := by
  cases h with
  | dataClass hbase hdoc h hc =>
    have hwritten := written_dataClasses _ (Document.named_of_parse hdoc) _ _ h
    exact ⟨_, hbase, (hwritten _ hc).written⟩
  | fetcher hbase hdoc h =>
    exact ⟨_, hbase, (written_fetcher _ (Document.named_of_parse hdoc) _ _ h).written⟩

/-- A generated file is read back as the artifact it was made from, with all its types, and with the
values of its annotations as the literals they are. No other artifact has the same file. -/
theorem decode_render_of_generated {a : Artifact} (h : Generated a) :
    (∃ o : Outline TypeRef Literal, Outline.decode a.render = some o ∧
      ∀ p : Outline TypeRef Literal, p.map id Literal.text = a.outline ↔ p = o) ∧
    ∀ b, Generated b → b.render = a.render → b.outline = a.outline := by
  obtain ⟨base, hbase, ha⟩ := h.written
  obtain ⟨o, ho⟩ := ha.literals
  have hdecode := ha.decode_render hbase.isQualified ho
  refine ⟨⟨o, hdecode, fun p => ⟨fun hp => ?_, fun hp => hp ▸ ho⟩⟩, fun b hb hrender => ?_⟩
  · have hother := ha.decode_render hbase.isQualified hp
    rw [hdecode] at hother
    exact (Option.some.inj hother).symm
  · obtain ⟨base', hbase', hb⟩ := hb.written
    obtain ⟨p, hp⟩ := hb.literals
    have hother := hb.decode_render hbase'.isQualified hp
    rw [hrender, hdecode] at hother
    rw [← hp, ← ho, Option.some.inj hother]

def limitedClass : ClassDecl :=
  ⟨"p.types", "A", dataClassAnnotations,
    [⟨"s", javaString, [⟨.inPackage validationPackage "Size", [⟨"max", "3"⟩]⟩]⟩], none⟩

theorem generated_limitedClass : Generated (.ofClass limitedClass) := by
  have hparse : Document.parse "input A \x7b s: String @Size(max: 3) \x7d".toList =
      .ok ⟨[.typeSystem (.input ⟨none, "A", [],
        [⟨none, "s", .named "String", none, [⟨"Size", [("max", .int "3")]⟩]⟩]⟩)]⟩ := by
    cbv
  refine .dataClass ⟨by decide, by decide⟩ hparse (show (dataClasses "p" _ none).outcome =
    .ok [limitedClass] by cbv) List.mem_cons_self

theorem decode_render_limitedClass : Generated (.ofClass limitedClass) ∧
    (∃ o : Outline TypeRef Literal, Outline.decode (Artifact.ofClass limitedClass).render = some o ∧
      ∀ p : Outline TypeRef Literal,
        p.map id Literal.text = (Artifact.ofClass limitedClass).outline ↔ p = o) ∧
    ∀ b, Generated b → b.render = (Artifact.ofClass limitedClass).render →
      b.outline = (Artifact.ofClass limitedClass).outline :=
  ⟨generated_limitedClass, decode_render_of_generated generated_limitedClass⟩

end SchemaToJava.Emission
