import Mathlib.Data.Set.Function
import SchemaToJava.Proofs.Java.Outline
import SchemaToJava.Proofs.Java.Spelling

/-!
Artifacts in other packages. Which simple names are claimed does not depend on packages at all; how
types are spelled, and which are imported, depends only on which packages are the same.
-/

namespace SchemaToJava.Java

variable (r : String → String)

def TypeRef.repackage (t : TypeRef) : TypeRef := ⟨t.simpleName, t.package.map r⟩

def AnnotationUse.repackage (a : AnnotationUse) : AnnotationUse := ⟨a.type.repackage r, a.members⟩

def FieldDecl.repackage (f : FieldDecl) : FieldDecl :=
  ⟨f.name, f.type.repackage r, f.annotations.map (·.repackage r)⟩

def Parameter.repackage (p : Parameter) : Parameter :=
  ⟨p.name, p.type.repackage r, p.annotations.map (·.repackage r)⟩

def MethodDecl.repackage (m : MethodDecl) : MethodDecl :=
  ⟨m.name, m.returnType.repackage r, m.annotations.map (·.repackage r),
    m.parameters.map (·.repackage r)⟩

def ClassDecl.repackage (c : ClassDecl) : ClassDecl :=
  ⟨r c.package, c.name, c.annotations.map (·.repackage r), c.fields.map (·.repackage r), c.source⟩

def InterfaceDecl.repackage (i : InterfaceDecl) : InterfaceDecl :=
  ⟨r i.package, i.name, i.annotations.map (·.repackage r), i.methods.map (·.repackage r), i.source⟩

def Artifact.repackage : Artifact → Artifact
  | .ofClass c => .ofClass (c.repackage r)
  | .ofInterface i => .ofInterface (i.repackage r)

section Identity

@[simp] theorem TypeRef.repackage_id (t : TypeRef) : t.repackage id = t := by
  simp [TypeRef.repackage]

@[simp] theorem AnnotationUse.repackage_id (a : AnnotationUse) : a.repackage id = a := by
  simp [AnnotationUse.repackage]

@[simp] theorem FieldDecl.repackage_id (f : FieldDecl) : f.repackage id = f := by
  simp [FieldDecl.repackage]

@[simp] theorem Parameter.repackage_id (p : Parameter) : p.repackage id = p := by
  simp [Parameter.repackage]

@[simp] theorem MethodDecl.repackage_id (m : MethodDecl) : m.repackage id = m := by
  simp [MethodDecl.repackage]

@[simp] theorem ClassDecl.repackage_id (c : ClassDecl) : c.repackage id = c := by
  simp [ClassDecl.repackage]

@[simp] theorem InterfaceDecl.repackage_id (i : InterfaceDecl) : i.repackage id = i := by
  simp [InterfaceDecl.repackage]

end Identity

@[simp] theorem TypeRef.simpleName_repackage (t : TypeRef) :
    (t.repackage r).simpleName = t.simpleName := rfl

@[simp] theorem TypeRef.isPrimitive_repackage (t : TypeRef) :
    (t.repackage r).isPrimitive = t.isPrimitive := by
  simp [TypeRef.isPrimitive, TypeRef.repackage]

@[simp] theorem TypeRef.repackage_inPackage (p n : String) :
    (TypeRef.inPackage p n).repackage r = .inPackage (r p) n := rfl

theorem Artifact.package_repackage (a : Artifact) : (a.repackage r).package = r a.package := by
  cases a <;> rfl

theorem Artifact.typeRef_repackage (a : Artifact) :
    (a.repackage r).typeRef = a.typeRef.repackage r := by
  cases a <;> rfl

theorem AnnotationUse.outline_repackage (a : AnnotationUse) :
    (a.repackage r).outline = a.outline.map (·.repackage r) id := by
  simp [AnnotationUse.outline, AnnotationUse.repackage, Outline.Tag.map]

theorem FieldDecl.outline_repackage (f : FieldDecl) :
    (f.repackage r).outline = f.outline.map (·.repackage r) id := by
  simp [FieldDecl.outline, FieldDecl.repackage, Outline.Variable.map,
    AnnotationUse.outline_repackage]

theorem Parameter.outline_repackage (p : Parameter) :
    (p.repackage r).outline = p.outline.map (·.repackage r) id := by
  simp [Parameter.outline, Parameter.repackage, Outline.Variable.map,
    AnnotationUse.outline_repackage]

theorem MethodDecl.outline_repackage (m : MethodDecl) :
    (m.repackage r).outline = m.outline.map (·.repackage r) id := by
  simp [MethodDecl.outline, MethodDecl.repackage, Outline.Method.map,
    AnnotationUse.outline_repackage, Parameter.outline_repackage]

def Outline.inPackage {τ ν : Type} (package : String) (o : Outline τ ν) : Outline τ ν :=
  { o with package := package }

theorem Outline.map_inPackage {τ σ ν μ : Type} (f : τ → σ) (g : ν → μ) (package : String)
    (o : Outline τ ν) : (o.inPackage package).map f g = (o.map f g).inPackage package := rfl

theorem Artifact.outline_repackage (a : Artifact) :
    (a.repackage r).outline = (a.outline.map (·.repackage r) id).inPackage (r a.package) := by
  cases a <;>
    simp [Artifact.outline, Artifact.repackage, Artifact.package, Outline.map, Outline.Body.map,
      Outline.inPackage, ClassDecl.repackage, InterfaceDecl.repackage,
      AnnotationUse.outline_repackage, FieldDecl.outline_repackage, MethodDecl.outline_repackage]

theorem Artifact.references_repackage (a : Artifact) :
    (a.repackage r).references = a.references.map (·.repackage r) := by
  rw [← Artifact.types_outline, Artifact.outline_repackage, ← Artifact.types_outline,
    ← Outline.types_map]
  rfl

namespace ImportScope

def repackage (s : ImportScope) : ImportScope :=
  ⟨r s.package, s.claimed.map fun e => (e.1, e.2.repackage r)⟩

theorem owner?_repackage (s : ImportScope) (n : String) :
    (s.repackage r).owner? n = (s.owner? n).map (·.repackage r) := by
  obtain ⟨package, claimed⟩ := s
  change (claimed.map fun e => (e.1, e.2.repackage r)).lookup n =
    (claimed.lookup n).map (·.repackage r)
  induction claimed with
  | nil => rfl
  | cons e rest ih =>
    rw [List.map_cons, List.lookup_cons, List.lookup_cons]
    cases n == e.1 with
    | true => rfl
    | false => exact ih

theorem claim_repackage (s : ImportScope) (t : TypeRef) :
    (s.repackage r).claim (t.repackage r) = (s.claim t).repackage r := by
  unfold claim
  rw [TypeRef.isPrimitive_repackage, TypeRef.simpleName_repackage, owner?_repackage,
    Option.isSome_map]
  split
  · rfl
  · simp [repackage]

theorem claimAll_repackage (s : ImportScope) (ts : List TypeRef) :
    (s.repackage r).claimAll (ts.map (·.repackage r)) = (s.claimAll ts).repackage r := by
  induction ts generalizing s with
  | nil => rfl
  | cons t ts ih =>
    rw [List.map_cons]
    change ((s.repackage r).claim (t.repackage r)).claimAll _ = _
    rw [claim_repackage, ih]
    rfl

end ImportScope

theorem Artifact.scope_repackage (a : Artifact) : (a.repackage r).scope = a.scope.repackage r := by
  unfold Artifact.scope
  rw [Artifact.references_repackage, Artifact.package_repackage, Artifact.typeRef_repackage,
    ← ImportScope.claimAll_repackage]
  rfl

def repackageName (name : String) : String :=
  match qualified? name with
  | some (p, n) => r p ++ "." ++ n
  | none => name

theorem repackageName_canonicalName {t : TypeRef} (h : t.isPrimitive = false)
    (hsimple : '.' ∉ t.simpleName.toList) :
    repackageName r t.canonicalName = (t.repackage r).canonicalName := by
  obtain ⟨p, hp, hq⟩ := TypeRef.qualified?_canonicalName h hsimple
  rw [repackageName, hq, TypeRef.canonicalName_of_package (t := t.repackage r) (p := r p)]
  · rfl
  · simp [TypeRef.repackage, hp]

variable {r} {known : Set String}

theorem TypeRef.repackage_injective (hr : Set.InjOn r known) {t u : TypeRef}
    (ht : ∀ p ∈ t.package, p ∈ known) (hu : ∀ p ∈ u.package, p ∈ known)
    (h : t.repackage r = u.repackage r) : t = u := by
  obtain ⟨n, p⟩ := t
  obtain ⟨m, q⟩ := u
  simp only [TypeRef.repackage, TypeRef.mk.injEq] at h
  obtain ⟨rfl, h⟩ := h
  cases p with
  | none =>
    cases q with
    | none => rfl
    | some q => cases h
  | some p =>
    cases q with
    | none => cases h
    | some q => rw [hr (ht p rfl) (hu q rfl) (Option.some.inj h)]

/-- `r` keeps apart the packages that a file needs, and leaves alone the one that needs no import. -/
structure Artifact.Distinguished (r : String → String) (known : Set String) (a : Artifact) :
    Prop where
  injective : Set.InjOn r known
  lang : "java.lang" ∈ known ∧ r "java.lang" = "java.lang"
  package : a.package ∈ known
  references : ∀ t ∈ a.references, ∀ p ∈ t.package, p ∈ known
  name : '.' ∉ a.name.toList
  simple : ∀ t ∈ a.references, t.isPrimitive = false → '.' ∉ t.simpleName.toList

namespace Artifact.Distinguished

variable {a : Artifact}

theorem claimed (h : a.Distinguished r known) {e : String × TypeRef} (he : e ∈ a.scope.claimed) :
    '.' ∉ e.2.simpleName.toList ∧ ∀ p ∈ e.2.package, p ∈ known := by
  rcases Artifact.mem_scope he with heq | ⟨hmem, hprimitive⟩
  · rw [heq]
    exact ⟨h.name, fun p hp => Option.some.inj hp ▸ h.package⟩
  · exact ⟨h.simple _ hmem hprimitive, h.references _ hmem⟩

theorem owner (h : a.Distinguished r known) {n : String} {t : TypeRef}
    (ht : ∀ p ∈ t.package, p ∈ known) :
    (a.repackage r).scope.owner? n = some (t.repackage r) ↔ a.scope.owner? n = some t := by
  rw [Artifact.scope_repackage, ImportScope.owner?_repackage, Option.map_eq_some_iff]
  constructor
  · rintro ⟨u, howner, heq⟩
    have hu := (h.claimed (a.sound_scope.owner?_eq_some_iff.mp howner)).2
    rw [howner, ← TypeRef.repackage_injective h.injective hu ht heq]
  · intro howner
    exact ⟨t, howner, rfl⟩

/-- A type is spelled by its simple name in the one file if it is in the other. -/
theorem spelling_iff (h : a.Distinguished r known) {t : TypeRef} (ht : t ∈ a.references) :
    (a.repackage r).scope.spelling (t.repackage r) = t.simpleName ↔
      a.scope.spelling t = t.simpleName := by
  cases hprimitive : t.isPrimitive with
  | true =>
    have hother : (t.repackage r).isPrimitive = true := by simp [hprimitive]
    rw [ImportScope.spelling_of_primitive hprimitive, ImportScope.spelling_of_primitive hother]
    exact Iff.rfl
  | false =>
    have hother : (t.repackage r).isPrimitive = false := by simp [hprimitive]
    have hsimple := h.simple t ht hprimitive
    rw [ImportScope.spelling_eq_simpleName_iff hprimitive hsimple, ← h.owner (h.references t ht)]
    exact ImportScope.spelling_eq_simpleName_iff hother hsimple

theorem needsImport (h : a.Distinguished r known) {t : TypeRef} (ht : ∀ p ∈ t.package, p ∈ known) :
    (a.repackage r).scope.needsImport (t.repackage r) = a.scope.needsImport t := by
  rw [Bool.eq_iff_iff, ImportScope.needsImport_iff, ImportScope.needsImport_iff,
    Artifact.package_scope, Artifact.package_scope, Artifact.package_repackage]
  have hlang : ∀ p ∈ known, r p = "java.lang" ↔ p = "java.lang" := by
    intro p hp
    rw [← h.injective.eq_iff hp h.lang.1, h.lang.2]
  constructor
  · rintro ⟨q, hq, hne, hnotLang⟩
    obtain ⟨p, hp, rfl⟩ := Option.map_eq_some_iff.mp hq
    exact ⟨p, hp, fun heq => hne (heq ▸ rfl), mt (hlang p (ht p hp)).mpr hnotLang⟩
  · rintro ⟨p, hp, hne, hnotLang⟩
    refine ⟨r p, by simp [TypeRef.repackage, hp], ?_, mt (hlang p (ht p hp)).mp hnotLang⟩
    exact fun heq => hne (h.injective (ht p hp) h.package heq)

theorem imports_perm (h : a.Distinguished r known) :
    (a.repackage r).scope.imports.Perm (a.scope.imports.map (repackageName r)) := by
  have hclaimed : (a.repackage r).scope.claimed =
      a.scope.claimed.map fun e => (e.1, e.2.repackage r) := by
    rw [Artifact.scope_repackage]
    rfl
  have hfilter : (a.repackage r).scope.claimed.filter
      (fun e => (a.repackage r).scope.needsImport e.2) =
        (a.scope.claimed.filter fun e => a.scope.needsImport e.2).map
          fun e => (e.1, e.2.repackage r) := by
    rw [hclaimed, List.filter_map]
    refine congrArg _ (List.filter_congr fun e he => ?_)
    exact h.needsImport (h.claimed he).2
  have hnames : ∀ e ∈ a.scope.claimed.filter fun e => a.scope.needsImport e.2,
      (e.2.repackage r).canonicalName = repackageName r e.2.canonicalName := by
    intro e he
    obtain ⟨hmem, himport⟩ := List.mem_filter.mp he
    have hprimitive := ImportScope.isPrimitive_of_needsImport himport
    exact (repackageName_canonicalName r hprimitive (h.claimed hmem).1).symm
  -- the two lists are sorted by different names, so they agree up to their order only
  have hperm := ImportScope.imports_perm (a.repackage r).scope
  rw [hfilter, List.map_map] at hperm
  have hsame : (a.scope.claimed.filter fun e => a.scope.needsImport e.2).map
      ((fun e => e.2.canonicalName) ∘ fun e => (e.1, e.2.repackage r)) =
        ((a.scope.claimed.filter fun e => a.scope.needsImport e.2).map
          fun e => e.2.canonicalName).map (repackageName r) := by
    rw [List.map_map]
    exact List.map_congr_left hnames
  rw [hsame] at hperm
  exact hperm.trans ((ImportScope.imports_perm a.scope).symm.map _)

theorem imports_increasing (h : a.Distinguished r known) :
    a.scope.imports.Pairwise (· < ·) ∧ (a.repackage r).scope.imports.Pairwise (· < ·) := by
  have hother : ∀ e ∈ (a.repackage r).scope.claimed, '.' ∉ e.2.simpleName.toList := by
    intro e he
    rw [Artifact.scope_repackage] at he
    obtain ⟨f, hf, rfl⟩ := List.mem_map.mp he
    exact (h.claimed hf).1
  exact ⟨a.sound_scope.imports_increasing fun e he => (h.claimed he).1,
    (a.repackage r).sound_scope.imports_increasing hother⟩

end Artifact.Distinguished

/-- Two files that differ in packages only. Both are texts of one outline; types are abbreviated at
the same places, and the imports of the one are those of the other, each sorted by itself. -/
structure Artifact.Relabelled (r : String → String) (a b : Artifact) : Prop where
  repackaged : b = a.repackage r
  text : a.render = (a.outline.map a.scope.spelling id).text a.scope.imports
  otherText : b.render =
    ((a.outline.map (fun t => b.scope.spelling (t.repackage r)) id).inPackage (r a.package)).text
      b.scope.imports
  spelling : ∀ t ∈ a.outline.types,
    b.scope.spelling (t.repackage r) = t.simpleName ↔ a.scope.spelling t = t.simpleName
  imports : b.scope.imports.Perm (a.scope.imports.map (repackageName r))
  increasing : a.scope.imports.Pairwise (· < ·) ∧ b.scope.imports.Pairwise (· < ·)

theorem Artifact.render_repackage (r : String → String) (a : Artifact) :
    (a.repackage r).render =
      ((a.outline.map (fun t => (a.repackage r).scope.spelling (t.repackage r)) id).inPackage
        (r a.package)).text (a.repackage r).scope.imports := by
  rw [Artifact.render_eq, Artifact.outline_repackage, Outline.map_inPackage, Outline.map_map,
    Function.comp_def, Function.comp_id]

theorem Artifact.Distinguished.relabelled {a : Artifact} (h : a.Distinguished r known) :
    Artifact.Relabelled r a (a.repackage r) where
  repackaged := rfl
  text := a.render_eq
  otherText := a.render_repackage r
  spelling := fun _ ht => h.spelling_iff (a.types_outline ▸ ht)
  imports := h.imports_perm
  increasing := h.imports_increasing

end SchemaToJava.Java
