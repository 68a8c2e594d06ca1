import Mathlib.Data.List.Nodup
import Mathlib.Data.String.Basic
import SchemaToJava.Proofs.Java.Naming

/-!
References made one after another. Each claims a name if it can and is answered with a spelling; what
is answered does not depend on what is asked later, and the imports only grow.
-/

namespace SchemaToJava.Java

namespace TypeRef

theorem canonicalName_of_package {t : TypeRef} {p : String} (h : t.package = some p) :
    t.canonicalName = p ++ "." ++ t.simpleName := by
  unfold canonicalName
  rw [h]

theorem exists_package {t : TypeRef} (h : t.isPrimitive = false) : ∃ p, t.package = some p := by
  apply Option.isSome_iff_exists.mp
  simpa [isPrimitive] using h

theorem qualified?_canonicalName {t : TypeRef} (h : t.isPrimitive = false)
    (hsimple : '.' ∉ t.simpleName.toList) :
    ∃ p, t.package = some p ∧ qualified? t.canonicalName = some (p, t.simpleName) := by
  obtain ⟨p, hp⟩ := exists_package h
  refine ⟨p, hp, ?_⟩
  rw [canonicalName_of_package hp, qualified?_append p hsimple]

theorem canonicalName_ne {t : TypeRef} (h : t.isPrimitive = false) {n : String}
    (hn : '.' ∉ n.toList) : t.canonicalName ≠ n := by
  obtain ⟨p, hp⟩ := exists_package h
  rintro rfl
  apply hn
  simp [canonicalName_of_package hp]

end TypeRef

namespace ImportScope

/-- Claims the simple name of a type if it is free, and answers how the type is spelled. -/
def reference (s : ImportScope) (t : TypeRef) : String × ImportScope :=
  ((s.claim t).spelling t, s.claim t)

section Spelling

variable {s : ImportScope} {t u : TypeRef}

theorem spelling_of_primitive (h : t.isPrimitive = true) : s.spelling t = t.simpleName := by
  simp [spelling, h]

theorem spelling_of_owner (h : s.owner? t.simpleName = some t) : s.spelling t = t.simpleName := by
  simp [spelling, h]

theorem spelling_of_not_owner (h : t.isPrimitive = false) (howner : s.owner? t.simpleName ≠ some t) :
    s.spelling t = t.canonicalName := by
  simp [spelling, h, howner]

theorem spelling_eq_simpleName_iff (h : t.isPrimitive = false)
    (hsimple : '.' ∉ t.simpleName.toList) :
    s.spelling t = t.simpleName ↔ s.owner? t.simpleName = some t := by
  refine ⟨fun heq => ?_, spelling_of_owner⟩
  by_contra howner
  rw [spelling_of_not_owner h howner] at heq
  exact TypeRef.canonicalName_ne h hsimple heq

theorem owner?_of_spelling_eq (h : t.isPrimitive = false) {n : String} (hn : '.' ∉ n.toList)
    (heq : s.spelling t = n) : s.owner? n = some t := by
  by_cases howner : s.owner? t.simpleName = some t
  · rw [spelling_of_owner howner] at heq
    rwa [← heq]
  · rw [spelling_of_not_owner h howner] at heq
    exact absurd heq (TypeRef.canonicalName_ne h hn)

theorem spelling_injective (ht : t.isPrimitive = false) (hu : u.isPrimitive = false)
    (htsimple : '.' ∉ t.simpleName.toList) (husimple : '.' ∉ u.simpleName.toList)
    (h : s.spelling t = s.spelling u) : t = u := by
  by_cases howner : s.owner? u.simpleName = some u
  · rw [spelling_of_owner howner] at h
    have htowner := owner?_of_spelling_eq ht husimple h
    rw [howner] at htowner
    exact (Option.some.inj htowner).symm
  · rw [spelling_of_not_owner hu howner] at h
    by_cases htowner : s.owner? t.simpleName = some t
    · rw [spelling_of_owner htowner] at h
      exact absurd h.symm (TypeRef.canonicalName_ne hu htsimple)
    · rw [spelling_of_not_owner ht htowner] at h
      obtain ⟨p, hp, htname⟩ := TypeRef.qualified?_canonicalName ht htsimple
      obtain ⟨q, hq, huname⟩ := TypeRef.qualified?_canonicalName hu husimple
      rw [h, huname, Option.some.injEq, Prod.mk.injEq] at htname
      obtain ⟨m, _⟩ := t
      obtain ⟨n, _⟩ := u
      simp_all

theorem isSome_owner?_claim (h : t.isPrimitive = false) :
    ∃ u, (s.claim t).owner? t.simpleName = some u := by
  rcases claim_eq_or s t with ⟨heq, hprimitive | howner⟩ | ⟨heq, -, hnone⟩
  · rw [h] at hprimitive
    cases hprimitive
  · rw [heq]
    exact Option.isSome_iff_exists.mp howner
  · have hlookup : s.claimed.lookup t.simpleName = none := hnone
    rw [heq]
    simp [owner?, List.lookup_append, hlookup]

theorem claimAll_append (s : ImportScope) (ts us : List TypeRef) :
    s.claimAll (ts ++ us) = (s.claimAll ts).claimAll us :=
  List.foldl_append

theorem spelling_after (s : ImportScope) (t : TypeRef) (ts : List TypeRef) :
    ((s.claim t).claimAll ts).spelling t = (s.claim t).spelling t := by
  cases h : t.isPrimitive with
  | true => rw [spelling_of_primitive h, spelling_of_primitive h]
  | false =>
    obtain ⟨u, hu⟩ := isSome_owner?_claim (s := s) h
    exact spelling_claimAll hu ts

end Spelling

/-- The types referred to one after another, each with the answer it was given. -/
def answers (s : ImportScope) : List TypeRef → List (TypeRef × String)
  | [] => []
  | t :: ts => (t, (s.reference t).1) :: (s.reference t).2.answers ts

/-- All answers are right in the last scope, so nothing has to be taken back. -/
theorem answers_eq (s : ImportScope) (ts : List TypeRef) :
    s.answers ts = ts.map fun t => (t, (s.claimAll ts).spelling t) := by
  induction ts generalizing s with
  | nil => rfl
  | cons t ts ih =>
    rw [answers, ih, List.map_cons]
    refine congrArg₂ (fun x xs => (t, x) :: xs) ?_ rfl
    exact (spelling_after s t ts).symm

theorem mem_answers {s : ImportScope} {ts : List TypeRef} {t : TypeRef} {x : String} :
    (t, x) ∈ s.answers ts ↔ t ∈ ts ∧ (s.claimAll ts).spelling t = x := by
  simp [answers_eq]

section Imports

variable {s : ImportScope}

theorem imports_perm (s : ImportScope) :
    s.imports.Perm ((s.claimed.filter fun e => s.needsImport e.2).map fun e => e.2.canonicalName) :=
  List.mergeSort_perm _ _

theorem isPrimitive_of_needsImport {t : TypeRef} (h : s.needsImport t = true) :
    t.isPrimitive = false := by
  unfold needsImport at h
  split at h
  · cases h
  · rename_i p hp
    simp [TypeRef.isPrimitive, hp]

theorem needsImport_iff {t : TypeRef} :
    s.needsImport t = true ↔ ∃ p, t.package = some p ∧ p ≠ s.package ∧ p ≠ "java.lang" := by
  unfold needsImport
  split
  · rename_i hp
    simp [hp]
  · rename_i p hp
    simp [hp, implicitPackages]

theorem Sound.nodup_importedNames (h : s.Sound)
    (hdots : ∀ e ∈ s.claimed, '.' ∉ e.2.simpleName.toList) :
    (s.imports.map fun i => (qualified? i).map (·.2)).Nodup := by
  have hnames : ∀ e ∈ s.claimed.filter fun e => s.needsImport e.2,
      (qualified? e.2.canonicalName).map (·.2) = some e.1 := by
    intro e he
    obtain ⟨hmem, himport⟩ := List.mem_filter.mp he
    obtain ⟨p, -, hq⟩ :=
      TypeRef.qualified?_canonicalName (isPrimitive_of_needsImport himport) (hdots e hmem)
    rw [hq, h.named e hmem]
    rfl
  rw [((imports_perm s).map _).nodup_iff, List.map_map]
  have hsame : (s.claimed.filter fun e => s.needsImport e.2).map
      ((fun i => (qualified? i).map (·.2)) ∘ fun e => e.2.canonicalName) =
        ((s.claimed.filter fun e => s.needsImport e.2).map (·.1)).map some := by
    rw [List.map_map]
    exact List.map_congr_left hnames
  rw [hsame]
  apply List.Nodup.map fun _ _ => Option.some.inj
  exact h.distinct.sublist (List.filter_sublist.map _)

theorem Sound.imports_increasing (h : s.Sound)
    (hdots : ∀ e ∈ s.claimed, '.' ∉ e.2.simpleName.toList) : s.imports.Pairwise (· < ·) := by
  have hsorted : s.imports.Pairwise (· ≤ ·) := by
    have hle := @List.pairwise_mergeSort String (fun a b => decide (a ≤ b))
      (fun a b c hab hbc => by simpa using le_trans (by simpa using hab) (by simpa using hbc))
      (fun a b => by simpa using le_total a b)
      ((s.claimed.filter fun e => s.needsImport e.2).map fun e => e.2.canonicalName)
    exact hle.imp fun hab => of_decide_eq_true hab
  have hnodup : s.imports.Nodup := (h.nodup_importedNames hdots).of_map _
  exact (hsorted.and hnodup).imp fun hab => lt_of_le_of_ne hab.1 hab.2

theorem claimed_subset_claim (s : ImportScope) (t : TypeRef) : s.claimed ⊆ (s.claim t).claimed := by
  rcases claim_eq_or s t with ⟨heq, -⟩ | ⟨heq, -⟩
  · rw [heq]
    exact List.Subset.refl _
  · rw [heq]
    exact List.subset_append_left _ _

theorem imports_subset_claim (s : ImportScope) (t : TypeRef) : s.imports ⊆ (s.claim t).imports := by
  intro i hi
  obtain ⟨e, he, himport, hi⟩ := mem_imports.mp hi
  refine mem_imports.mpr ⟨e, claimed_subset_claim s t he, ?_, hi⟩
  rwa [needsImport_iff, package_claim, ← needsImport_iff]

theorem imports_subset_claimAll (s : ImportScope) (ts : List TypeRef) :
    s.imports ⊆ (s.claimAll ts).imports := by
  induction ts generalizing s with
  | nil => exact List.Subset.refl _
  | cons t ts ih => exact List.Subset.trans (imports_subset_claim s t) (ih (s.claim t))

end Imports

def ofType (package name : String) : ImportScope := opened package (.inPackage package name)

/-- What holds after some references in the file of a type. -/
structure Orderly (package name : String) (calls : List TypeRef) : Prop where
  stable : ∀ t x y, (t, x) ∈ (ofType package name).answers calls →
    (t, y) ∈ (ofType package name).answers calls → x = y
  injective : ∀ t u x, (t, x) ∈ (ofType package name).answers calls →
    (u, x) ∈ (ofType package name).answers calls →
      t.isPrimitive = false → u.isPrimitive = false → t = u
  -- only a primitive type of another name than Java's could be mistaken for the own type
  own_iff : ∀ t x, (t, x) ∈ (ofType package name).answers calls → t.Plain →
    (x = name ↔ t = .inPackage package name)
  increasing : ((ofType package name).claimAll calls).imports.Pairwise (· < ·)
  nodup : (((ofType package name).claimAll calls).imports.map
    fun i => (qualified? i).map (·.2)).Nodup
  mem_imports_iff : ∀ i, i ∈ ((ofType package name).claimAll calls).imports ↔
    ∃ t p, (t, t.simpleName) ∈ (ofType package name).answers calls ∧
      t.package = some p ∧ p ≠ package ∧ p ≠ "java.lang" ∧ i = t.canonicalName
  grows : ∀ later, ((ofType package name).claimAll calls).imports ⊆
    ((ofType package name).claimAll (calls ++ later)).imports

section File

variable {package name : String} {calls : List TypeRef}

theorem sound_ofType (package name : String) (calls : List TypeRef) :
    ((ofType package name).claimAll calls).Sound :=
  (sound_opened package (.inPackage package name)).claimAll calls

theorem owner?_name (package name : String) (calls : List TypeRef) :
    ((ofType package name).claimAll calls).owner? name = some (.inPackage package name) := by
  apply owner?_claimAll_of_eq_some
  simp [owner?, ofType, opened, TypeRef.inPackage]

theorem mem_claimed_ofType {e : String × TypeRef}
    (he : e ∈ ((ofType package name).claimAll calls).claimed) :
    e.2 = .inPackage package name ∨ e.2 ∈ calls ∧ e.2.isPrimitive = false :=
  (mem_claimAll he).imp_left fun h => congrArg Prod.snd (List.mem_singleton.mp h)

theorem spelling_eq_name_iff (hown : (TypeRef.inPackage package name).Plain) {t : TypeRef}
    (ht : t.Plain) :
    ((ofType package name).claimAll calls).spelling t = name ↔ t = .inPackage package name := by
  have howned := owner?_name package name calls
  constructor
  · intro heq
    cases hprimitive : t.isPrimitive with
    | true =>
      rw [spelling_of_primitive hprimitive] at heq
      have hname : name ∈ primitiveNames := heq ▸ ht.primitive_iff.mp hprimitive
      exact absurd (hown.primitive_iff.mpr hname) (by simp)
    | false =>
      have howner := owner?_of_spelling_eq hprimitive (n := name) hown.simple heq
      rw [howned] at howner
      exact (Option.some.inj howner).symm
  · rintro rfl
    exact spelling_of_owner howned

/-- The imports are those of the types that were answered with their simple names and that are not
known without an import. -/
theorem mem_imports_ofType (hcalls : ∀ t ∈ calls, t.isPrimitive = false → t.Plain) {i : String} :
    i ∈ ((ofType package name).claimAll calls).imports ↔
      ∃ t p, (t, t.simpleName) ∈ (ofType package name).answers calls ∧
        t.package = some p ∧ p ≠ package ∧ p ≠ "java.lang" ∧ i = t.canonicalName := by
  have hsound := sound_ofType package name calls
  have hpackage : ((ofType package name).claimAll calls).package = package :=
    package_claimAll _ calls
  simp only [mem_imports, needsImport_iff, hpackage]
  constructor
  · rintro ⟨⟨n, t⟩, he, ⟨p, hp, hne, hlang⟩, rfl⟩
    rcases mem_claimed_ofType he with hown | ⟨hmem, -⟩
    · rw [show t = .inPackage package name from hown] at hp
      exact absurd (Option.some.inj hp).symm hne
    · have hn : n = t.simpleName := hsound.named _ he
      have howner := hsound.owner?_eq_some_iff.mpr (hn ▸ he)
      exact ⟨t, p, mem_answers.mpr ⟨hmem, spelling_of_owner howner⟩, hp, hne, hlang, rfl⟩
  · rintro ⟨t, p, hanswer, hp, hne, hlang, rfl⟩
    obtain ⟨hmem, hspelling⟩ := mem_answers.mp hanswer
    have hprimitive : t.isPrimitive = false := by simp [TypeRef.isPrimitive, hp]
    have howner := (spelling_eq_simpleName_iff hprimitive (hcalls t hmem hprimitive).simple).mp
      hspelling
    exact ⟨(t.simpleName, t), hsound.owner?_eq_some_iff.mp howner, ⟨p, hp, hne, hlang⟩, rfl⟩

/-- Whatever is referred to, in whatever order, spellings and imports are told apart by the types. -/
theorem orderly_of_plain (hown : (TypeRef.inPackage package name).Plain)
    (hcalls : ∀ t ∈ calls, t.isPrimitive = false → t.Plain) : Orderly package name calls := by
  have hsound := sound_ofType package name calls
  have hdots : ∀ e ∈ ((ofType package name).claimAll calls).claimed,
      '.' ∉ e.2.simpleName.toList := by
    intro e he
    rcases mem_claimed_ofType he with heq | ⟨hmem, hprimitive⟩
    · rw [heq]
      exact hown.simple
    · exact (hcalls _ hmem hprimitive).simple
  constructor
  case stable =>
    intro t x y hx hy
    rw [← (mem_answers.mp hx).2, ← (mem_answers.mp hy).2]
  case injective =>
    intro t u x hx hy ht hu
    obtain ⟨htmem, htx⟩ := mem_answers.mp hx
    obtain ⟨humem, hux⟩ := mem_answers.mp hy
    apply spelling_injective ht hu (hcalls t htmem ht).simple (hcalls u humem hu).simple
    exact htx.trans hux.symm
  case own_iff =>
    intro t x hx ht
    obtain ⟨-, rfl⟩ := mem_answers.mp hx
    exact spelling_eq_name_iff hown ht
  case increasing => exact hsound.imports_increasing hdots
  case nodup => exact hsound.nodup_importedNames hdots
  case mem_imports_iff =>
    intro i
    exact mem_imports_ofType hcalls
  case grows =>
    intro later
    rw [claimAll_append]
    exact imports_subset_claimAll _ later

def mixedCalls : List TypeRef :=
  [.inPackage "lombok" "Data", .primitive "int", .inPackage "java.lang" "String",
    .inPackage "q" "Size", .inPackage "p" "Size", .inPackage "p" "String", .inPackage "a" "B",
    .inPackage "lombok" "Data", .inPackage "p" "Data"]

theorem orderly_mixedCalls :
    (TypeRef.inPackage "p" "Data").Plain ∧
      (∀ t ∈ mixedCalls, t.isPrimitive = false → t.Plain) ∧ Orderly "p" "Data" mixedCalls := by
  have hown : (TypeRef.inPackage "p" "Data").Plain := ⟨by decide, by decide⟩
  have hcalls : ∀ t ∈ mixedCalls, t.isPrimitive = false → t.Plain := by
    have hall : ∀ t ∈ mixedCalls, '.' ∉ t.simpleName.toList ∧
        (t.isPrimitive = true ↔ t.simpleName ∈ primitiveNames) := by
      decide
    exact fun t ht _ => ⟨(hall t ht).1, (hall t ht).2⟩
  exact ⟨hown, hcalls, orderly_of_plain hown hcalls⟩

end File

end ImportScope

end SchemaToJava.Java
