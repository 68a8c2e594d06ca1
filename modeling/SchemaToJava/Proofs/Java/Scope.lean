import Mathlib.Data.List.Nodup
import SchemaToJava.Java.Source

/-!
Who owns which simple name. In the scope of a source file every claim was made by the type of that
name, no name was claimed twice, and every type in the file found its name claimed.
-/

namespace SchemaToJava.Java

namespace ImportScope

/-- All claims are made under the claimant's own name, and no name is claimed twice. -/
structure Sound (s : ImportScope) : Prop where
  named : ∀ e ∈ s.claimed, e.1 = e.2.simpleName
  distinct : (s.claimed.map (·.1)).Nodup

theorem sound_opened (package : String) (own : TypeRef) : (opened package own).Sound := by
  constructor
  · intro e he
    rw [List.mem_singleton.mp he]
  · simp [opened]

theorem not_mem_keys {s : ImportScope} {n : String} (h : s.owner? n = none) :
    n ∉ s.claimed.map (·.1) := by
  intro hmem
  obtain ⟨e, he, rfl⟩ := List.mem_map.mp hmem
  have hne := List.lookup_eq_none_iff.mp h e he
  simp at hne

theorem claim_eq_or (s : ImportScope) (t : TypeRef) :
    s.claim t = s ∧ (t.isPrimitive = true ∨ (s.owner? t.simpleName).isSome = true) ∨
      s.claim t = { s with claimed := s.claimed ++ [(t.simpleName, t)] } ∧
        t.isPrimitive = false ∧ s.owner? t.simpleName = none := by
  unfold claim
  split
  · rename_i h
    exact .inl ⟨rfl, by simpa using h⟩
  · rename_i h
    rw [Bool.or_eq_true, not_or] at h
    exact .inr ⟨rfl, by simpa using h.1, by simpa using h.2⟩

theorem Sound.claim {s : ImportScope} (h : s.Sound) (t : TypeRef) : (s.claim t).Sound := by
  rcases claim_eq_or s t with ⟨heq, -⟩ | ⟨heq, -, hnone⟩
  · rwa [heq]
  · rw [heq]
    constructor
    · intro e he
      rcases List.mem_append.mp he with he | he
      · exact h.named e he
      · rw [List.mem_singleton.mp he]
    · rw [List.map_append, List.nodup_append]
      refine ⟨h.distinct, by simp, ?_⟩
      rintro n hn m hm rfl
      rw [List.map_singleton, List.mem_singleton] at hm
      subst hm
      exact not_mem_keys hnone hn

theorem Sound.claimAll {s : ImportScope} (h : s.Sound) (ts : List TypeRef) :
    (s.claimAll ts).Sound := by
  induction ts generalizing s with
  | nil => exact h
  | cons t ts ih => exact ih (h.claim t)

@[simp] theorem package_claimAll (s : ImportScope) (ts : List TypeRef) :
    (s.claimAll ts).package = s.package := by
  induction ts generalizing s with
  | nil => rfl
  | cons t ts ih =>
    rw [← package_claim s t]
    exact ih (s.claim t)

theorem Sound.owner?_eq_some_iff {s : ImportScope} (h : s.Sound) {n : String} {t : TypeRef} :
    s.owner? n = some t ↔ (n, t) ∈ s.claimed := by
  constructor
  · intro howner
    obtain ⟨before, after, heq, -⟩ := List.lookup_eq_some_iff.mp howner
    simp [heq]
  · intro hmem
    cases howner : s.owner? n with
    | none => exact absurd (List.mem_map_of_mem hmem) (not_mem_keys howner)
    | some u =>
      obtain ⟨before, after, heq, -⟩ := List.lookup_eq_some_iff.mp howner
      have hthere : (n, u) ∈ s.claimed := by simp [heq]
      have hsame := List.inj_on_of_nodup_map h.distinct hmem hthere rfl
      exact congrArg some (congrArg Prod.snd hsame.symm)

/-- Only the types that asked for a name own one. -/
theorem mem_claimAll {s : ImportScope} {ts : List TypeRef} {e : String × TypeRef}
    (h : e ∈ (s.claimAll ts).claimed) :
    e ∈ s.claimed ∨ e.2 ∈ ts ∧ e.2.isPrimitive = false := by
  induction ts generalizing s with
  | nil => exact .inl h
  | cons t ts ih =>
    rcases ih (s := s.claim t) h with hmem | ⟨hmem, hprimitive⟩
    · rcases claim_eq_or s t with ⟨heq, -⟩ | ⟨heq, hprimitive, -⟩
      · rw [heq] at hmem
        exact .inl hmem
      · rw [heq] at hmem
        rcases List.mem_append.mp hmem with hmem | hmem
        · exact .inl hmem
        · rw [List.mem_singleton.mp hmem]
          exact .inr ⟨List.mem_cons_self, hprimitive⟩
    · exact .inr ⟨List.mem_cons_of_mem t hmem, hprimitive⟩

theorem mem_imports {s : ImportScope} {i : String} :
    i ∈ s.imports ↔ ∃ e ∈ s.claimed, s.needsImport e.2 = true ∧ e.2.canonicalName = i := by
  unfold imports
  simp [and_assoc]

end ImportScope

namespace Artifact

theorem sound_scope (a : Artifact) : a.scope.Sound :=
  (ImportScope.sound_opened a.package a.typeRef).claimAll a.references

@[simp] theorem package_scope (a : Artifact) : a.scope.package = a.package :=
  ImportScope.package_claimAll _ a.references

theorem owner?_scope_name (a : Artifact) : a.scope.owner? a.name = some a.typeRef := by
  refine ImportScope.owner?_claimAll_of_eq_some ?_ a.references
  simp [ImportScope.owner?, ImportScope.opened, typeRef, TypeRef.inPackage]

theorem mem_scope {a : Artifact} {e : String × TypeRef} (h : e ∈ a.scope.claimed) :
    e.2 = a.typeRef ∨ e.2 ∈ a.references ∧ e.2.isPrimitive = false := by
  rcases ImportScope.mem_claimAll h with hmem | hmem
  · exact .inl (congrArg Prod.snd (List.mem_singleton.mp hmem))
  · exact .inr hmem

end Artifact

end SchemaToJava.Java
