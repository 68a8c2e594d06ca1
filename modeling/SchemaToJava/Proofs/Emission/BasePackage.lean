import SchemaToJava.Proofs.Emission.Rebasing

/-!
The base package is only a label. With another one the same artifacts are generated in other
packages, and since no library has a package that is called like a generated one, their files differ
in the names of packages only.
-/

namespace SchemaToJava.Emission

open GraphQL Java Outcome

def rebase (base other p : String) : String :=
  if p = typesPackage base then typesPackage other
  else if p = fetchersPackage base then fetchersPackage other
  else p

/-- The packages that generated files are in or refer to. -/
inductive IsKnownPackage (base : String) : String → Prop
  | types : IsKnownPackage base (typesPackage base)
  | fetchers : IsKnownPackage base (fetchersPackage base)
  | library {t : TypeRef} {p : String} (h : t ∈ libraryTypes) (hp : t.package = some p) :
    IsKnownPackage base p

section Packages

variable (base other : String)

theorem rebase_types : rebase base other (typesPackage base) = typesPackage other :=
  if_pos rfl

theorem rebase_fetchers : rebase base other (fetchersPackage base) = fetchersPackage other := by
  have hne : fetchersPackage base ≠ typesPackage base :=
    fun h => absurd (subpackage_inj h) (by decide)
  rw [rebase, if_neg hne, if_pos rfl]

theorem rebase_library {t : TypeRef} {p : String} (h : t ∈ libraryTypes) (hp : t.package = some p) :
    rebase base other p = p := by
  have htypes : p ≠ typesPackage base := by
    rintro rfl
    exact library_package_ne_types base h hp
  have hfetchers : p ≠ fetchersPackage base := by
    rintro rfl
    exact library_package_ne_fetchers base h hp
  rw [rebase, if_neg htypes, if_neg hfetchers]

theorem rebases_rebase : Rebases (rebase base other) base other where
  types := rebase_types base other
  fetchers := rebase_fetchers base other
  library := by
    rintro ⟨n, p⟩ ht
    cases p with
    | none => rfl
    | some p => rw [TypeRef.repackage, Option.map_some, rebase_library base other ht rfl]

theorem rebase_rebase {p : String} (h : IsKnownPackage base p) :
    rebase other base (rebase base other p) = p := by
  cases h with
  | types => rw [rebase_types, rebase_types]
  | fetchers => rw [rebase_fetchers, rebase_fetchers]
  | library h hp => rw [rebase_library base other h hp, rebase_library other base h hp]

theorem injOn_rebase : Set.InjOn (rebase base other) {p | IsKnownPackage base p} := by
  intro p hp q hq h
  rw [← rebase_rebase base other hp, h, rebase_rebase base other hq]

end Packages

/-- A type of a known package, or a primitive one. -/
structure IsLocated (base : String) (t : TypeRef) : Prop where
  package : ∀ p ∈ t.package, IsKnownPackage base p
  simple : t.isPrimitive = false → '.' ∉ t.simpleName.toList

section References

variable {base other fileName : String} {doc : Document} {source : Option String} {t : TypeRef}

theorem isLocated_of_library (h : t ∈ libraryTypes) : IsLocated base t := by
  have href : IsReference base t := .library h
  exact ⟨fun p hp => .library h hp, fun _ => href.plain.simple⟩

theorem isLocated_of_javaType {n : String} (h : javaType base n = .ok t) : IsLocated base t := by
  have hscalars : ∀ e ∈ builtinScalars, e.2 ∈ libraryTypes ∨ e.2.package = none := by decide
  rcases eq_of_javaType h with hmem | ⟨-, hidentifier, rfl⟩
  · rcases hscalars (n, t) hmem with ht | ht
    · exact isLocated_of_library ht
    · have hnone : t.package = none := ht
      exact ⟨by simp [hnone], by simp [TypeRef.isPrimitive, hnone]⟩
  · refine ⟨fun p hp => ?_, fun _ => dot_not_mem hidentifier⟩
    cases hp
    exact .types

theorem isLocated_of_standsFor {a : Artifact} (h : StandsFor base doc fileName source a)
    (ht : t ∈ a.references) : IsLocated base t := by
  rcases h.mem_references ht with ht | ⟨n, -, htype⟩
  · exact isLocated_of_library ht
  · exact isLocated_of_javaType htype

theorem distinguished_of_standsFor {a : Artifact} (h : StandsFor base doc fileName source a)
    (hpackage : IsKnownPackage base a.package) (hname : isIdentifier a.name = true) :
    a.Distinguished (rebase base other) {p | IsKnownPackage base p} where
  injective := injOn_rebase base other
  lang := by
    have hstring : javaString ∈ libraryTypes := by decide
    exact ⟨.library hstring rfl, rebase_library base other hstring rfl⟩
  package := hpackage
  references := fun _ ht => (isLocated_of_standsFor h ht).package
  name := dot_not_mem hname
  simple := fun _ ht => (isLocated_of_standsFor h ht).simple

end References

section Artifacts

variable {base fileName : String} {doc : Document} {source : Option String}

theorem relabelled_class (other : String) {classes : List ClassDecl}
    (h : (dataClasses base doc source).outcome = .ok classes) {c : ClassDecl} (hc : c ∈ classes) :
    Artifact.Relabelled (rebase base other) (.ofClass c) (.ofClass (c.repackage (rebase base other))) := by
  have hstands : StandsFor base doc "" source (.ofClass c) := standsFor_of_dataClasses h hc
  obtain ⟨d, hd⟩ := dataClass_of_mem h hc
  obtain ⟨hname, _, -, rfl⟩ := dataClass_eq_ok_iff.mp hd
  exact (distinguished_of_standsFor hstands .types hname).relabelled

theorem relabelled_interface (other : String) {i : InterfaceDecl}
    (h : (fetcher base doc fileName).outcome = .ok i) :
    Artifact.Relabelled (rebase base other) (.ofInterface i)
      (.ofInterface (i.repackage (rebase base other))) := by
  have hstands : StandsFor base doc fileName none (.ofInterface i) := standsFor_of_fetcher h
  obtain ⟨hname, _, -, rfl⟩ := fetcher_eq_ok_iff.mp h
  exact (distinguished_of_standsFor hstands .fetchers hname).relabelled

end Artifacts

/-- With another base package there is the same fault, or there are the same artifacts, relabelled. -/
theorem emission_relabelled (base other : String) (doc : Document) (fileName : String)
    (source : Option String) :
    Agree
      (List.Forall₂ fun c d => Artifact.Relabelled (rebase base other) (.ofClass c) (.ofClass d))
      (dataClasses base doc source).outcome (dataClasses other doc source).outcome ∧
    Agree (fun i j => Artifact.Relabelled (rebase base other) (.ofInterface i) (.ofInterface j))
      (fetcher base doc fileName).outcome (fetcher other doc fileName).outcome := by
  have hrebases := rebases_rebase base other
  constructor
  · refine ((hrebases.dataClasses source (.refl doc)).and fun _ h => h).mono ?_
    rintro classes _ ⟨rfl, h⟩
    rw [List.forall₂_map_right_iff, List.forall₂_same]
    exact fun c hc => relabelled_class other h hc
  · refine ((hrebases.fetcher (.refl doc) fileName).and fun _ h => h).mono ?_
    rintro i _ ⟨rfl, h⟩
    exact relabelled_interface other h

end SchemaToJava.Emission
