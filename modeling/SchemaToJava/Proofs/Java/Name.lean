import Mathlib.Data.List.Basic
import SchemaToJava.Java.Name

/-!
What identifiers and package names are made of. An identifier holds neither a dot nor a slash, so
the segments of a package are found again in its name.
-/

namespace SchemaToJava.Java

theorem isIdentifierPart_of_start {c : Char} (h : isIdentifierStart c = true) :
    isIdentifierPart c = true := by
  simp [isIdentifierPart, h]

theorem hasIdentifierShape_iff {cs : List Char} :
    hasIdentifierShape cs = true ↔
      (∃ c rest, withoutLastLineEnd cs = c :: rest ∧ isIdentifierStart c = true) ∧
        ∀ c ∈ withoutLastLineEnd cs, isIdentifierPart c = true := by
  unfold hasIdentifierShape
  cases withoutLastLineEnd cs with
  | nil => simp
  | cons c rest =>
    simp only [Bool.and_eq_true, List.all_eq_true, List.forall_mem_cons, List.cons.injEq]
    constructor
    · rintro ⟨hc, hrest⟩
      exact ⟨⟨c, rest, ⟨rfl, rfl⟩, hc⟩, isIdentifierPart_of_start hc, hrest⟩
    · rintro ⟨⟨_, _, ⟨rfl, rfl⟩, hc⟩, -, hrest⟩
      exact ⟨hc, hrest⟩

theorem parts_of_hasIdentifierShape {cs : List Char} (h : hasIdentifierShape cs = true) :
    ∀ c ∈ withoutLastLineEnd cs, isIdentifierPart c = true := (hasIdentifierShape_iff.mp h).2

theorem all_of_hasIdentifierShape {cs : List Char} (h : hasIdentifierShape cs = true) :
    ∀ c ∈ cs, isIdentifierPart c = true ∨ c = '\n' := by
  have hbody := parts_of_hasIdentifierShape h
  unfold withoutLastLineEnd at hbody
  split at hbody
  · rename_i hlast
    intro c hc
    rw [← List.dropLast_append_getLast? _ hlast, List.mem_append] at hc
    rcases hc with hc | hc
    · exact .inl (hbody c hc)
    · exact .inr (List.mem_singleton.mp hc)
  · exact fun c hc => .inl (hbody c hc)

theorem isIdentifier_iff {name : String} :
    isIdentifier name = true ↔
      hasIdentifierShape name.toList = true ∧ name ∉ reservedWords := by
  simp [isIdentifier]

/-- An identifier holds no character that is neither a part of identifiers nor a line feed. -/
theorem not_mem_of_isIdentifier {name : String} (h : isIdentifier name = true) {c : Char}
    (hc : isIdentifierPart c = false) (hl : c ≠ '\n') : c ∉ name.toList := by
  intro hmem
  rcases all_of_hasIdentifierShape (isIdentifier_iff.mp h).1 c hmem with hp | hp
  · simp [hp] at hc
  · exact hl hp

theorem dot_not_mem {name : String} (h : isIdentifier name = true) : '.' ∉ name.toList :=
  not_mem_of_isIdentifier h (by decide) (by decide)

theorem slash_not_mem {name : String} (h : isIdentifier name = true) : '/' ∉ name.toList :=
  not_mem_of_isIdentifier h (by decide) (by decide)

theorem ne_empty_of_isIdentifier {name : String} (h : isIdentifier name = true) : name ≠ "" := by
  rintro rfl
  exact absurd h (by decide)

/-- A name that can stand in a source file as it is. Its letters are those of ASCII. -/
structure LegalIdentifier (name : String) : Prop where
  start : ∃ c rest, name.toList = c :: rest ∧ isIdentifierStart c = true
  parts : ∀ c ∈ name.toList, isIdentifierPart c = true
  notReserved : name ∉ reservedWords

/-- But for a line feed at the end, identifiers are checked exactly. -/
theorem isIdentifier_iff_legal {name : String} (h : name.toList.getLast? ≠ some '\n') :
    isIdentifier name = true ↔ LegalIdentifier name := by
  rw [isIdentifier_iff, hasIdentifierShape_iff, withoutLastLineEnd, if_neg h]
  exact ⟨fun h => ⟨h.1.1, h.1.2, h.2⟩, fun h => ⟨⟨h.start, h.parts⟩, h.notReserved⟩⟩

theorem isPackageName_iff {package : String} :
    isPackageName package = true ↔ ∀ s ∈ segments package, isIdentifier s = true := by
  simp [isPackageName]

theorem mem_of_mem_intercalate {α : Type} {a : α} {separator : List α} {parts : List (List α)}
    (h : a ∈ separator.intercalate parts) : a ∈ separator ∨ ∃ part ∈ parts, a ∈ part := by
  induction parts with
  | nil => cases h
  | cons part parts ih =>
    cases parts with
    | nil => exact .inr ⟨part, List.mem_cons_self, by simpa using h⟩
    | cons next parts =>
      rw [List.intercalate_cons_cons, List.append_assoc, List.mem_append, List.mem_append] at h
      rcases h with hpart | hseparator | hrest
      · exact .inr ⟨part, List.mem_cons_self, hpart⟩
      · exact .inl hseparator
      · refine (ih hrest).imp_right ?_
        rintro ⟨found, hfound, hmem⟩
        exact ⟨found, List.mem_cons_of_mem _ hfound, hmem⟩

theorem mem_segment_of_mem {package : String} {c : Char} (h : c ∈ package.toList) :
    c = '.' ∨ ∃ s ∈ segments package, c ∈ s.toList := by
  have hsplit : ['.'].intercalate (package.toList.splitOn '.') = package.toList :=
    List.intercalate_splitOn '.'
  rw [← hsplit] at h
  refine (mem_of_mem_intercalate h).imp List.mem_singleton.mp ?_
  rintro ⟨cs, hcs, hc⟩
  exact ⟨String.ofList cs, List.mem_map_of_mem hcs, by rwa [String.toList_ofList]⟩

theorem segments_injective {package other : String} (h : segments package = segments other) :
    package = other := by
  have hsplit : package.toList.splitOn '.' = other.toList.splitOn '.' :=
    List.map_injective_iff.mpr (fun _ _ => String.ofList_injective) h
  have hjoin := congrArg (['.'].intercalate) hsplit
  rwa [List.intercalate_splitOn, List.intercalate_splitOn, String.toList_inj] at hjoin

theorem segments_subpackage (base : String) {inner : String} (h : '.' ∉ inner.toList) :
    segments (subpackage base inner) = segments base ++ [inner] := by
  have happ : (subpackage base inner).toList = base.toList ++ '.' :: inner.toList := by
    simp [subpackage]
  rw [segments, happ, List.splitOn_append_cons_self, List.splitOn_eq_singleton h, List.map_append,
    List.map_singleton, String.ofList_toList, segments]

theorem isPackageName_subpackage {base inner : String} (hb : isPackageName base = true)
    (hi : isIdentifier inner = true) : isPackageName (subpackage base inner) = true := by
  rw [isPackageName_iff, segments_subpackage base (dot_not_mem hi)]
  intro s hs
  rcases List.mem_append.mp hs with hs | hs
  · exact isPackageName_iff.mp hb s hs
  · exact List.mem_singleton.mp hs ▸ hi

theorem subpackage_inj {base inner other : String} (h : subpackage base inner = subpackage base other) :
    inner = other := by
  have hl := congrArg String.toList h
  simp only [subpackage, String.toList_append] at hl
  exact String.toList_inj.mp (List.append_cancel_left hl)

end SchemaToJava.Java
