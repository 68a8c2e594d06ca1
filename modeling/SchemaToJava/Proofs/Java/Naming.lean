import Mathlib.Data.List.TakeWhile
import SchemaToJava.Proofs.Java.Scope

/-!
What a name in a source file means. A short name is looked up among the primitive types, the
imports and the types that need no import; a name with a dot means the same everywhere.
-/

namespace SchemaToJava.Java

def qualified? (name : String) : Option (String × String) :=
  match name.toList.reverse.dropWhile (· != '.') with
  | [] => none
  | _ :: before => some (String.ofList before.reverse,
      String.ofList (name.toList.reverse.takeWhile (· != '.')).reverse)

theorem qualified?_of_not_mem {name : String} (h : '.' ∉ name.toList) : qualified? name = none := by
  have hdrop : name.toList.reverse.dropWhile (· != '.') = [] := by
    rw [List.dropWhile_eq_nil_iff]
    intro c hc
    rw [bne_iff_ne]
    rintro rfl
    exact h (List.mem_reverse.mp hc)
  unfold qualified?
  rw [hdrop]

theorem qualified?_append (package : String) {name : String} (h : '.' ∉ name.toList) :
    qualified? (package ++ "." ++ name) = some (package, name) := by
  have hname : ∀ c ∈ name.toList.reverse, (c != '.') = true := by
    intro c hc
    rw [bne_iff_ne]
    rintro rfl
    exact h (List.mem_reverse.mp hc)
  have htext : (package ++ "." ++ name).toList.reverse =
      name.toList.reverse ++ '.' :: package.toList.reverse := by
    simp
  unfold qualified?
  rw [htext, List.dropWhile_append_of_pos hname, List.takeWhile_append_of_pos hname]
  simp

def imported? (imports : List String) (name : String) : Option String :=
  imports.findSome? fun i =>
    match qualified? i with
    | some (package, n) => if n = name then some package else none
    | none => none

theorem findSome?_eq_some_of_unique {α β : Type} {f : α → Option β} {xs : List α} {x : α} {b : β}
    (hx : x ∈ xs) (hb : f x = some b) (hunique : ∀ y ∈ xs, ∀ c, f y = some c → c = b) :
    xs.findSome? f = some b := by
  cases hfound : xs.findSome? f with
  | none =>
    rw [List.findSome?_eq_none_iff] at hfound
    rw [hfound x hx] at hb
    cases hb
  | some c =>
    obtain ⟨y, hy, hc⟩ := List.exists_of_findSome?_eq_some hfound
    rw [hunique y hy c hc]

namespace ImportScope

variable {s : ImportScope}

theorem Sound.owner?_of_mem_imports (h : s.Sound) (hdots : ∀ e ∈ s.claimed, '.' ∉ e.2.simpleName.toList)
    {i package name : String} (hi : i ∈ s.imports) (hq : qualified? i = some (package, name)) :
    s.owner? name = some (.inPackage package name) ∧
      s.needsImport (.inPackage package name) = true := by
  obtain ⟨e, he, himport, rfl⟩ := mem_imports.mp hi
  obtain ⟨n, simple, p⟩ := e
  have hn : n = simple := h.named _ he
  cases p with
  | none => cases himport
  | some p =>
    have hsplit := qualified?_append p (hdots _ he)
    rw [TypeRef.canonicalName, hsplit] at hq
    cases hq
    exact ⟨h.owner?_eq_some_iff.mpr (hn ▸ he), himport⟩

theorem Sound.imported?_of_needsImport (h : s.Sound)
    (hdots : ∀ e ∈ s.claimed, '.' ∉ e.2.simpleName.toList) {package name : String}
    (howner : s.owner? name = some (.inPackage package name))
    (himport : s.needsImport (.inPackage package name) = true) :
    imported? s.imports name = some package := by
  have hmem := h.owner?_eq_some_iff.mp howner
  refine findSome?_eq_some_of_unique (mem_imports.mpr ⟨_, hmem, himport, rfl⟩) ?_ ?_
  · have hsimple : '.' ∉ name.toList := hdots _ hmem
    simp only [TypeRef.canonicalName_inPackage, qualified?_append package hsimple, if_true]
  · intro i hi p hp
    split at hp
    · rename_i p' n hq
      split at hp
      · rename_i hn
        cases hp
        subst hn
        have hother := (h.owner?_of_mem_imports hdots hi hq).1
        rw [howner] at hother
        cases hother
        rfl
      · cases hp
    · cases hp

theorem Sound.imported?_eq_none (h : s.Sound)
    (hdots : ∀ e ∈ s.claimed, '.' ∉ e.2.simpleName.toList) {name : String} {t : TypeRef}
    (howner : s.owner? name = some t) (himport : s.needsImport t = false) :
    imported? s.imports name = none := by
  unfold imported?
  rw [List.findSome?_eq_none_iff]
  intro i hi
  split
  · rename_i p n hq
    split
    · rename_i hn
      subst hn
      obtain ⟨hother, hneeds⟩ := h.owner?_of_mem_imports hdots hi hq
      rw [howner] at hother
      cases hother
      rw [himport] at hneeds
      cases hneeds
    · rfl
  · rfl

end ImportScope

def primitiveNames : List String := [
  "boolean", "byte", "char", "double", "float", "int", "long", "short"]

inductive NameForm where
  | primitive
  | qualified (package name : String)
  | short
  deriving DecidableEq, Repr

def nameForm (name : String) : NameForm :=
  if primitiveNames.contains name then .primitive
  else
    match qualified? name with
    | some (p, n) => .qualified p n
    | none => .short

/-- A reference that its spelling can be told from: its simple name has no dot, and only primitive
types have the names of these. -/
structure TypeRef.Plain (t : TypeRef) : Prop where
  simple : '.' ∉ t.simpleName.toList
  primitive_iff : t.isPrimitive = true ↔ t.simpleName ∈ primitiveNames

namespace TypeRef

theorem nameForm_primitive {n : String} (h : (TypeRef.primitive n).Plain) :
    nameForm n = .primitive := by
  have hn : n ∈ primitiveNames := h.primitive_iff.mp rfl
  unfold nameForm
  simp [hn]

theorem nameForm_short {p n : String} (h : (TypeRef.inPackage p n).Plain) :
    nameForm n = .short := by
  have hn : n ∉ primitiveNames := fun hmem => absurd (h.primitive_iff.mpr hmem) (by simp)
  have hsimple : '.' ∉ n.toList := h.simple
  unfold nameForm
  rw [qualified?_of_not_mem hsimple]
  simp [hn]

theorem nameForm_qualified {p n : String} (h : (TypeRef.inPackage p n).Plain) :
    nameForm (p ++ "." ++ n) = .qualified p n := by
  have hn : p ++ "." ++ n ∉ primitiveNames := by
    intro hmem
    have hdot : '.' ∈ (p ++ "." ++ n).toList := by simp
    have hnone : ∀ m ∈ primitiveNames, '.' ∉ m.toList := by decide
    exact hnone _ hmem hdot
  have hsimple : '.' ∉ n.toList := h.simple
  unfold nameForm
  rw [qualified?_append p hsimple]
  simp [hn]

end TypeRef

/-- What a name means in a file of the package with these imports. -/
def meaning (package : String) (imports : List String) (name : String) : TypeRef :=
  match nameForm name with
  | .primitive => .primitive name
  | .qualified p n => .inPackage p n
  | .short =>
    match imported? imports name with
    | some p => .inPackage p name
    | none => if name = "String" then .inPackage "java.lang" name else .inPackage package name

/-- What a name denotes in a file of the package that declares `own`. Where nothing is imported, the
members of the package come before the types of `java.lang`. -/
def denoted? (package own : String) (imports members lang : List String) (name : String) :
    Option TypeRef :=
  match nameForm name with
  | .primitive => some (.primitive name)
  | .qualified p n => some (.inPackage p n)
  | .short =>
    if name = own then some (.inPackage package own)
    else
      match imported? imports name with
      | some p => some (.inPackage p name)
      | none =>
        if members.contains name then some (.inPackage package name)
        else if lang.contains name then some (.inPackage "java.lang" name)
        else none

section Denoted

variable {package own name : String} {imports members lang : List String}

theorem denoted?_of_primitive (h : nameForm name = .primitive) :
    denoted? package own imports members lang name = some (.primitive name) := by
  unfold denoted?
  rw [h]

theorem denoted?_of_qualified {p n : String} (h : nameForm name = .qualified p n) :
    denoted? package own imports members lang name = some (.inPackage p n) := by
  unfold denoted?
  rw [h]

theorem denoted?_own (h : nameForm own = .short) :
    denoted? package own imports members lang own = some (.inPackage package own) := by
  unfold denoted?
  rw [h]
  exact if_pos rfl

theorem denoted?_of_imported (h : nameForm name = .short) (hown : name ≠ own) {p : String}
    (himport : imported? imports name = some p) :
    denoted? package own imports members lang name = some (.inPackage p name) := by
  unfold denoted?
  rw [h, himport]
  exact if_neg hown

theorem denoted?_of_short (h : nameForm name = .short) (hown : name ≠ own)
    (himport : imported? imports name = none) :
    denoted? package own imports members lang name =
      if name ∈ members then some (.inPackage package name)
      else if name ∈ lang then some (.inPackage "java.lang" name)
      else none := by
  unfold denoted?
  rw [h, himport]
  simp [hown]

end Denoted

namespace ImportScope

variable {s : ImportScope}

/-- How the types of a file are spelled: primitive types and the owners of simple names by these,
all others with their packages. -/
inductive Spells (s : ImportScope) : TypeRef → String → Prop
  | primitive (n : String) : Spells s (.primitive n) n
  | imported {p n : String} (howner : s.owner? n = some (.inPackage p n))
    (h : imported? s.imports n = some p) : Spells s (.inPackage p n) n
  | near {p n : String} (howner : s.owner? n = some (.inPackage p n))
    (h : imported? s.imports n = none) (hp : p = s.package ∨ p = "java.lang") :
    Spells s (.inPackage p n) n
  | qualified {p n : String} (howner : s.owner? n ≠ some (.inPackage p n)) :
    Spells s (.inPackage p n) (p ++ "." ++ n)

theorem Sound.spells (h : s.Sound) (hdots : ∀ e ∈ s.claimed, '.' ∉ e.2.simpleName.toList)
    (t : TypeRef) : s.Spells t (s.spelling t) := by
  obtain ⟨n, p⟩ := t
  cases p with
  | none => exact .primitive n
  | some p =>
    by_cases howner : s.owner? n = some (.inPackage p n)
    · have hspelling : s.spelling (.inPackage p n) = n := by
        simp [spelling, howner, TypeRef.inPackage]
      rw [TypeRef.inPackage] at hspelling
      rw [hspelling]
      cases himport : s.needsImport (.inPackage p n) with
      | true => exact .imported howner (h.imported?_of_needsImport hdots howner himport)
      | false =>
        refine .near howner (h.imported?_eq_none hdots howner himport) ?_
        simp only [needsImport, TypeRef.inPackage, Bool.and_eq_false_iff] at himport
        rcases himport with himport | himport
        · exact .inl (by simpa using himport)
        · exact .inr (by simpa [implicitPackages] using himport)
    · have hspelling : s.spelling (.inPackage p n) = p ++ "." ++ n := by
        unfold spelling
        rw [if_neg]
        · rfl
        · simpa [TypeRef.isPrimitive, TypeRef.inPackage] using howner
      rw [TypeRef.inPackage] at hspelling
      rw [hspelling]
      exact .qualified howner

/-- The spelling of a type means that type again. -/
theorem Sound.meaning_spelling (h : s.Sound)
    (hdots : ∀ e ∈ s.claimed, '.' ∉ e.2.simpleName.toList) {t : TypeRef} (ht : t.Plain)
    (hlang : t.package = some "java.lang" ↔ t.simpleName = "String") :
    meaning s.package s.imports (s.spelling t) = t := by
  have hspells := h.spells hdots t
  generalize s.spelling t = name at hspells
  unfold meaning
  cases hspells with
  | primitive =>
    rw [TypeRef.nameForm_primitive ht]
  | @imported p _ howner himport =>
    rw [TypeRef.nameForm_short ht, himport]
  | @near p _ howner himport hp =>
    change some p = some "java.lang" ↔ name = "String" at hlang
    rw [TypeRef.nameForm_short ht, himport]
    simp only
    split
    · rename_i hn
      rw [Option.some.inj (hlang.mpr hn)]
    · rename_i hn
      rcases hp with rfl | rfl
      · rfl
      · exact absurd (hlang.mp rfl) hn
  | qualified howner =>
    rw [TypeRef.nameForm_qualified ht]

/-- The spelling of a type denotes that type if the members of the package are known and none of
them stands in front of `java.lang`. -/
theorem Sound.denoted?_spelling (h : s.Sound)
    (hdots : ∀ e ∈ s.claimed, '.' ∉ e.2.simpleName.toList) {own : String}
    (hown : s.owner? own = some (.inPackage s.package own)) {t : TypeRef} (ht : t.Plain)
    {members lang : List String} (hmember : t.package = some s.package → t.simpleName ∈ members)
    (hlang : t.package = some "java.lang" → s.owner? t.simpleName = some t →
      t.simpleName ∉ members ∧ t.simpleName ∈ lang) :
    denoted? s.package own s.imports members lang (s.spelling t) = some t := by
  have hspells := h.spells hdots t
  generalize s.spelling t = name at hspells
  cases hspells with
  | primitive => exact denoted?_of_primitive (TypeRef.nameForm_primitive ht)
  | @imported p _ howner himport =>
    have hform := TypeRef.nameForm_short ht
    by_cases hn : name = own
    · subst hn
      rw [denoted?_own hform, ← hown, howner]
    · exact denoted?_of_imported hform hn himport
  | @near p _ howner himport hp =>
    have hform := TypeRef.nameForm_short ht
    by_cases hn : name = own
    · subst hn
      rw [denoted?_own hform, ← hown, howner]
    · -- Without an import, the members of the package are found before those of `java.lang`.
      rw [denoted?_of_short hform hn himport]
      by_cases hpackage : p = s.package
      · subst hpackage
        exact if_pos (hmember rfl)
      · obtain rfl : p = "java.lang" := hp.resolve_left hpackage
        have hlang := hlang rfl howner
        exact (if_neg hlang.1).trans (if_pos hlang.2)
  | qualified => exact denoted?_of_qualified (TypeRef.nameForm_qualified ht)

theorem Sound.denoted?_spelling_of_not_mem (h : s.Sound)
    (hdots : ∀ e ∈ s.claimed, '.' ∉ e.2.simpleName.toList) {own : String} {t : TypeRef} (ht : t.Plain)
    {members lang : List String} (hown : own ∈ members) (hpackage : t.package = some s.package)
    (hmember : t.simpleName ∉ members) :
    denoted? s.package own s.imports members lang (s.spelling t) =
      if s.spelling t = t.simpleName then
        if t.simpleName ∈ lang then some (.inPackage "java.lang" t.simpleName) else none
      else some t := by
  have hspells := h.spells hdots t
  generalize s.spelling t = name at hspells
  cases hspells with
  | primitive => cases hpackage
  | @imported p _ howner himport =>
    obtain rfl : p = s.package := Option.some.inj hpackage
    have hnone := h.imported?_eq_none hdots howner (by simp [needsImport, TypeRef.inPackage])
    rw [himport] at hnone
    cases hnone
  | @near p _ howner himport hp =>
    have hne : name ≠ own := fun heq => hmember (heq ▸ hown)
    rw [denoted?_of_short (TypeRef.nameForm_short ht) hne himport]
    exact (if_neg hmember).trans (if_pos rfl).symm
  | @qualified p n howner =>
    have hne : p ++ "." ++ n ≠ n := by
      intro heq
      have hlength := congrArg (fun u => u.toList.length) heq
      simp at hlength
      omega
    rw [denoted?_of_qualified (TypeRef.nameForm_qualified ht)]
    exact (if_neg hne).symm

end ImportScope

end SchemaToJava.Java
