import SchemaToJava.Proofs.Java.Name

/-!
The grammar of package names: identifiers with dots between them. What is taken for a package name
follows this grammar, except that a line feed behind a segment is overlooked; a reserved word with
one behind it is not noticed either.
-/

namespace SchemaToJava.Java

/-- What is taken for a segment of a package name. -/
inductive AdmittedSegment : String → Prop where
  | legal {name : String} (h : LegalIdentifier name) : AdmittedSegment name
  | lineEnd {name : String} (start : ∃ c rest, name.toList = c :: rest ∧ isIdentifierStart c = true)
    (parts : ∀ c ∈ name.toList, isIdentifierPart c = true) : AdmittedSegment (name ++ "\n")

theorem LegalIdentifier.lineEnd_not_mem {name : String} (h : LegalIdentifier name) :
    '\n' ∉ name.toList := fun hmem => absurd (h.parts _ hmem) (by decide)

theorem lineEnd_not_last_of_reserved : ∀ w ∈ reservedWords, w.toList.getLast? ≠ some '\n' := by
  decide

theorem isIdentifier_iff_admitted {name : String} :
    isIdentifier name = true ↔ AdmittedSegment name := by
  by_cases hlast : name.toList.getLast? = some '\n'
  · have hname : name = String.ofList name.toList.dropLast ++ "\n" := by
      rw [← String.toList_inj, String.toList_append, String.toList_ofList]
      exact (List.dropLast_append_getLast? _ hlast).symm
    have hunreserved : name ∉ reservedWords := fun hmem =>
      lineEnd_not_last_of_reserved name hmem hlast
    rw [isIdentifier_iff, hasIdentifierShape_iff, withoutLastLineEnd, if_pos hlast,
      and_iff_left hunreserved]
    constructor
    · rintro ⟨hstart, hparts⟩
      rw [hname]
      exact .lineEnd (by simpa using hstart) (by simpa using hparts)
    · intro h
      cases h with
      | legal h => exact absurd (List.mem_of_getLast? hlast) h.lineEnd_not_mem
      | lineEnd hstart hparts =>
        rw [String.toList_append, show "\n".toList = ['\n'] from rfl, List.dropLast_concat]
        exact ⟨hstart, hparts⟩
  · rw [isIdentifier_iff_legal hlast]
    refine ⟨.legal, fun h => ?_⟩
    cases h with
    | legal h => exact h
    | lineEnd => simp at hlast

/-- A text of one or more segments with dots between them. -/
def Dotted (IsSegment : String → Prop) (text : String) : Prop :=
  ∃ segs : List String, segs ≠ [] ∧ (∀ s ∈ segs, IsSegment s) ∧ text = ".".intercalate segs

theorem segments_intercalate {segs : List String} (hne : segs ≠ [])
    (h : ∀ s ∈ segs, '.' ∉ s.toList) : segments (".".intercalate segs) = segs := by
  have hsplit : (".".intercalate segs).toList.splitOn '.' = segs.map String.toList := by
    rw [String.toList_intercalate]
    refine List.splitOn_intercalate '.' (fun cs hcs => ?_) (by simpa using hne)
    obtain ⟨s, hs, rfl⟩ := List.mem_map.mp hcs
    exact h s hs
  rw [segments, hsplit, List.map_map]
  simp [Function.comp_def]

theorem intercalate_segments (text : String) : ".".intercalate (segments text) = text := by
  rw [← String.toList_inj, String.toList_intercalate, segments, List.map_map]
  simp [Function.comp_def]

theorem segments_ne_nil (text : String) : segments text ≠ [] := by
  simp [segments]

/-- Where segments have no dots, they are what stands between the dots. -/
theorem dotted_iff {IsSegment : String → Prop} (hdots : ∀ s, IsSegment s → '.' ∉ s.toList)
    {text : String} : Dotted IsSegment text ↔ ∀ s ∈ segments text, IsSegment s := by
  constructor
  · rintro ⟨segs, hne, hsegs, rfl⟩
    rwa [segments_intercalate hne fun s hs => hdots s (hsegs s hs)]
  · intro h
    exact ⟨segments text, segments_ne_nil text, h, (intercalate_segments text).symm⟩

theorem Dotted.subpackage {IsSegment : String → Prop} {base inner : String}
    (h : Dotted IsSegment base) (hinner : IsSegment inner) :
    Dotted IsSegment (subpackage base inner) := by
  obtain ⟨segs, hne, hsegs, rfl⟩ := h
  refine ⟨segs ++ [inner], by simp, ?_, ?_⟩
  · simpa [or_imp, forall_and] using ⟨hsegs, hinner⟩
  · rw [String.intercalate_append_of_ne_nil hne (by simp), Java.subpackage]
    simp

def LegalPackage : String → Prop := Dotted LegalIdentifier

theorem dot_not_mem_of_admitted {s : String} (h : AdmittedSegment s) : '.' ∉ s.toList :=
  dot_not_mem (isIdentifier_iff_admitted.mpr h)

theorem isPackageName_iff_dotted {package : String} :
    isPackageName package = true ↔ Dotted AdmittedSegment package := by
  rw [isPackageName_iff, dotted_iff fun _ => dot_not_mem_of_admitted]
  exact forall₂_congr fun _ _ => isIdentifier_iff_admitted

theorem legalPackage_iff {package : String} :
    LegalPackage package ↔ ∀ s ∈ segments package, LegalIdentifier s :=
  dotted_iff fun _ h => dot_not_mem_of_admitted (.legal h)

theorem mem_intercalate {c d : Char} {s : List Char} {ss : List (List Char)} (hs : s ∈ ss)
    (hc : c ∈ s) : c ∈ [d].intercalate ss := by
  induction ss with
  | nil => cases hs
  | cons t ss ih =>
    by_cases hss : ss = []
    · simp_all
    · rw [List.intercalate_cons_of_ne_nil hss, List.mem_append, List.mem_append]
      rcases List.mem_cons.mp hs with rfl | hs
      · exact .inl (.inl hc)
      · exact .inr (ih hs)

theorem mem_of_mem_segments {text s : String} (hs : s ∈ segments text) {c : Char}
    (hc : c ∈ s.toList) : c ∈ text.toList := by
  obtain ⟨cs, hcs, rfl⟩ := List.mem_map.mp hs
  have hmem := mem_intercalate (d := '.') hcs (by simpa using hc)
  rwa [List.intercalate_splitOn] at hmem

/-- But for line feeds, package names are checked exactly. -/
theorem isPackageName_iff_legal {package : String} (h : '\n' ∉ package.toList) :
    isPackageName package = true ↔ LegalPackage package := by
  rw [isPackageName_iff, legalPackage_iff]
  refine forall₂_congr fun s hs => ?_
  have hline : '\n' ∉ s.toList := fun hmem => h (mem_of_mem_segments hs hmem)
  exact isIdentifier_iff_legal fun hlast => hline (List.mem_of_getLast? hlast)

end SchemaToJava.Java
