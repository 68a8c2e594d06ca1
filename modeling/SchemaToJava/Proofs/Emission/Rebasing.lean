import SchemaToJava.Proofs.Emission.Likeness
import SchemaToJava.Proofs.Emission.SelfContained
import SchemaToJava.Proofs.Java.Repackaging

/-!
Building from alike documents. The artifacts are the same, or there is the same fault; and with
another base package they are the same artifacts in other packages.
-/

namespace SchemaToJava.Emission

open GraphQL Java Outcome

/-- `r` puts the packages of `other` in the place of those of `base`, and keeps all libraries. -/
structure Rebases (r : String → String) (base other : String) : Prop where
  types : r (typesPackage base) = typesPackage other
  fetchers : r (fetchersPackage base) = fetchersPackage other
  library : ∀ t ∈ libraryTypes, t.repackage r = t

theorem rebases_id (base : String) : Rebases id base base :=
  ⟨rfl, rfl, fun t _ => t.repackage_id⟩

namespace Rebases

variable {r : String → String} {base other : String}

theorem javaType (h : Rebases r base other) (name : String) :
    Agree (fun t u => u = t.repackage r) (Emission.javaType base name)
      (Emission.javaType other name) := by
  have hscalars : ∀ e ∈ builtinScalars, e.2 ∈ libraryTypes ∨ e.2.package = none := by decide
  unfold Emission.javaType
  split
  · rename_i t hlookup
    apply Agree.ok
    rcases hscalars (name, t) (Entries.mem_of_lookup hlookup) with ht | ht
    · exact (h.library t ht).symm
    · obtain ⟨n, p⟩ := t
      cases ht
      rfl
  · apply Agree.bind (Agree.refl _)
    rintro n _ rfl
    apply Agree.ok
    rw [TypeRef.repackage_inPackage, h.types]

theorem library_map (h : Rebases r base other) (as : List AnnotationUse)
    (has : ∀ a ∈ as, a.type ∈ libraryTypes) : as.map (·.repackage r) = as := by
  have hall : ∀ a ∈ as, a.repackage r = id a := by
    intro a ha
    rw [AnnotationUse.repackage, h.library _ (has a ha), id]
  rw [List.map_congr_left hall, List.map_id]

theorem annotations (h : Rebases r base other) {kind : TypeKind} {f g : DataField}
    (hfg : f.Alike kind g) :
    Agree (fun as bs => bs = as.map (·.repackage r)) (fieldAnnotations kind f)
      (fieldAnnotations kind g) := by
  rw [hfg.annotations]
  refine ((Agree.refl _).and fun as => library_fieldAnnotations).mono ?_
  rintro as _ ⟨rfl, has⟩
  exact (h.library_map _ has).symm

theorem dataClassField (h : Rebases r base other) {kind : TypeKind} {f g : DataField}
    (hfg : f.Alike kind g) :
    Agree (fun d e => e = d.repackage r) (Emission.dataClassField base kind f).outcome
      (Emission.dataClassField other kind g).outcome := by
  rw [outcome_dataClassField, outcome_dataClassField, hfg.base, hfg.name]
  apply Agree.bind (h.javaType f.type.base)
  rintro type _ rfl
  apply Agree.bind (h.annotations hfg)
  rintro as _ rfl
  apply Agree.bind (Agree.refl _)
  rintro name _ rfl
  exact .ok rfl

theorem dataClass (h : Rebases r base other) (source : Option String) {d e : DataType}
    (hde : d.Alike e) :
    Agree (fun c c' => c' = c.repackage r) (Emission.dataClass base source d).outcome
      (Emission.dataClass other source e).outcome := by
  unfold Emission.dataClass
  simp only [Traced.outcome_bind, Traced.outcome_silently, Traced.outcome_mapM,
    Traced.outcome_pure, hde.kind, hde.name]
  apply Agree.bind (Agree.mapM_map hde.fields fun f g hfg => h.dataClassField hfg)
  rintro fields _ rfl
  apply Agree.bind (Agree.refl _)
  rintro name _ rfl
  apply Agree.ok
  have hannotations := h.library_map dataClassAnnotations (by decide)
  rw [ClassDecl.repackage, hannotations, h.types]

theorem dataClasses (h : Rebases r base other) (source : Option String) {doc doc' : Document}
    (hdoc : DocumentsAlike doc doc') :
    Agree (fun cs ds => ds = cs.map (·.repackage r))
      (Emission.dataClasses base doc source).outcome
      (Emission.dataClasses other doc' source).outcome := by
  unfold Emission.dataClasses
  simp only [Traced.outcome_bind, Traced.outcome_note, Traced.outcome_mapM, Traced.outcome_pure]
  apply Agree.bind (dataTypes_alike hdoc)
  intro types types' htypes
  apply Agree.bind (Agree.mapM_map htypes fun d e hde => h.dataClass source hde)
  rintro classes _ rfl
  exact .ok rfl

theorem parameter (h : Rebases r base other) {a b : InputValue} (hab : InputsAlike a b) :
    Agree (fun p q => q = p.repackage r) (Emission.parameter base a).outcome
      (Emission.parameter other b).outcome := by
  have hname : b.name = a.name := hab.name
  have hbase : b.type.base = a.type.base := hab.base
  unfold Emission.parameter
  simp only [Traced.outcome_bind, Traced.outcome_silently, Traced.outcome_pure, hname, hbase]
  apply Agree.bind (h.javaType a.type.base)
  rintro type _ rfl
  apply Agree.bind (h.annotations hab)
  rintro as _ rfl
  apply Agree.bind (Agree.refl _)
  rintro name _ rfl
  apply Agree.ok
  have hbinding := h.library_map [inputArgument] (by decide)
  rw [Parameter.repackage, List.map_append, hbinding]

theorem method (h : Rebases r base other) {o p : Operation} (hop : o.Alike p) :
    Agree (fun m n => n = m.repackage r) (Emission.method base o).outcome
      (Emission.method other p).outcome := by
  unfold Emission.method
  simp only [Traced.outcome_bind, Traced.outcome_silently, Traced.outcome_mapM,
    Traced.outcome_pure, hop.root, hop.name, hop.base]
  apply Agree.bind (Agree.mapM_map hop.arguments fun a b hab => h.parameter hab)
  rintro ps _ rfl
  apply Agree.bind (h.javaType o.field.type.base)
  rintro type _ rfl
  apply Agree.bind (Agree.refl _)
  rintro name _ rfl
  apply Agree.ok
  have hmarker := h.library_map [o.root.marker] (by cases o.root <;> decide)
  have hlast : environmentParameter.repackage r = environmentParameter := by
    rw [Parameter.repackage, h.library _ (by decide)]
    rfl
  rw [MethodDecl.repackage, hmarker, List.map_append, List.map_singleton, hlast]

theorem methods (h : Rebases r base other) {os ps : List Operation}
    (hops : List.Forall₂ Operation.Alike os ps) (seen : List (Root × String)) :
    Agree (fun ms ns => ns = ms.map (·.repackage r)) (Emission.methods base seen os).outcome
      (Emission.methods other seen ps).outcome := by
  -- what was seen before is told by names, which are the same on both sides
  induction hops generalizing seen with
  | nil => exact .ok rfl
  | @cons o p _ _ hop _ ih =>
    rw [Emission.methods, Emission.methods, hop.root, hop.name]
    split
    · exact .error _
    · rw [Traced.outcome_bind, Traced.outcome_bind]
      apply Agree.bind (h.method hop)
      rintro m _ rfl
      rw [Traced.outcome_bind, Traced.outcome_bind]
      apply Agree.bind (ih _)
      rintro ms _ rfl
      exact .ok rfl

theorem fetcher (h : Rebases r base other) {doc doc' : Document} (hdoc : DocumentsAlike doc doc')
    (fileName : String) :
    Agree (fun i j => j = i.repackage r) (Emission.fetcher base doc fileName).outcome
      (Emission.fetcher other doc' fileName).outcome := by
  unfold Emission.fetcher
  simp only [Traced.outcome_bind, Traced.outcome_silently, Traced.outcome_note,
    Traced.outcome_pure]
  apply Agree.bind (h.methods hdoc.operations [])
  rintro ms _ rfl
  apply Agree.bind (Agree.refl _)
  rintro name _ rfl
  apply Agree.ok
  have hcomponent := h.library_map [component] (by decide)
  rw [InterfaceDecl.repackage, hcomponent, h.fetchers]

end Rebases

section Same

variable {doc doc' : Document} (h : DocumentsAlike doc doc')
include h

theorem dataClasses_alike (base : String) (source : Option String) :
    (dataClasses base doc' source).outcome = (dataClasses base doc source).outcome := by
  apply Agree.eq
  simpa using (rebases_id base).dataClasses source h

theorem fetcher_alike (base fileName : String) :
    (fetcher base doc' fileName).outcome = (fetcher base doc fileName).outcome := by
  apply Agree.eq
  simpa using (rebases_id base).fetcher h fileName

end Same

end SchemaToJava.Emission
