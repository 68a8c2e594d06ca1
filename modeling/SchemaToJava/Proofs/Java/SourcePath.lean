import Mathlib.Data.List.Nodup
import SchemaToJava.Emission.JavaType
import SchemaToJava.Java.SourcePath
import SchemaToJava.Proofs.FileTree.WellFormed
import SchemaToJava.Proofs.Java.Name

/-!
Where source files go. The file of a legal artifact lies below the output directory, in the
directories that its package names, so artifacts with different packages or names never share one.
-/

namespace SchemaToJava

theorem Path.partsOf_of_not_mem {cs : List Char} (h : '/' ∉ cs) (hne : String.ofList cs ≠ "")
    (hdot : String.ofList cs ≠ ".") : partsOf cs = [String.ofList cs] := by
  simp [partsOf, List.splitOn_eq_singleton h, hne, hdot]

theorem Path.ofText_of_not_mem {s : String} (h : '/' ∉ s.toList) (hne : s ≠ "") (hdot : s ≠ ".") :
    ofText s = ⟨.working, [s]⟩ := by
  have hslash : s.toList.takeWhile (· == '/') = [] := by
    cases hs : s.toList with
    | nil => rfl
    | cons c cs =>
      rw [List.takeWhile_cons_of_neg]
      rintro heq
      rw [beq_iff_eq] at heq
      exact h (by simp [hs, heq])
  have hparts : partsOf s.toList = [s] := by
    simpa using partsOf_of_not_mem h (by simpa using hne) (by simpa using hdot)
  rw [ofText, hslash, hparts]
  rfl

namespace Java

theorem ofText_of_isIdentifier {name : String} (h : isIdentifier name = true) :
    Path.ofText name = ⟨.working, [name]⟩ := by
  refine Path.ofText_of_not_mem (slash_not_mem h) (ne_empty_of_isIdentifier h) ?_
  rintro rfl
  exact absurd h (by decide)

theorem toList_fileName (name : String) :
    (fileName name).toList = name.toList ++ ['.', 'j', 'a', 'v', 'a'] := by
  simp [fileName]

theorem five_le_length_fileName (name : String) : 5 ≤ (fileName name).length := by
  rw [← String.length_toList, toList_fileName]
  simp

theorem ofText_fileName {name : String} (h : '/' ∉ name.toList) :
    Path.ofText (fileName name) = ⟨.working, [fileName name]⟩ := by
  apply Path.ofText_of_not_mem
  · simp [toList_fileName, h]
  · exact fun heq => absurd (heq ▸ five_le_length_fileName name) (by decide)
  · exact fun heq => absurd (heq ▸ five_le_length_fileName name) (by decide)

theorem fileName_injective {name other : String} (h : fileName name = fileName other) :
    name = other := by
  have hl := congrArg String.toList h
  rw [toList_fileName, toList_fileName] at hl
  exact String.toList_inj.mp (List.append_cancel_right hl)

theorem packagePath_eq {package : String} (h : isPackageName package = true) :
    packagePath package = ⟨.working, segments package⟩ := by
  have hfold : ∀ (ss : List String) (p : Path), (∀ s ∈ ss, isIdentifier s = true) →
      ss.foldl (fun p s => p.join (.ofText s)) p = ⟨p.anchor, p.parts ++ ss⟩ := by
    intro ss
    induction ss with
    | nil => simp
    | cons s ss ih =>
      intro p hs
      rw [List.foldl_cons, ofText_of_isIdentifier (hs s (by simp)),
        ih _ fun s hmem => hs s (by simp [hmem])]
      simp [Path.join]
  exact (hfold _ _ (isPackageName_iff.mp h)).trans (by simp [Path.here])

/-- A package and a type of it that can both be written. -/
structure Artifact.Legal (a : Artifact) : Prop where
  package : isPackageName a.package = true
  name : isIdentifier a.name = true

namespace Artifact

variable {a b : Artifact}

theorem Legal.path_eq (h : a.Legal) (out : Path) :
    a.path out = ⟨out.anchor, out.parts ++ (segments a.package ++ [fileName a.name])⟩ := by
  rw [path, packagePath_eq h.package, ofText_fileName (slash_not_mem h.name)]
  simp [Path.join]

/-- Packages and types bring no character into a path that names are written without. -/
theorem Legal.has_path_iff (h : a.Legal) (out : Path) {c : Char}
    (hpart : isIdentifierPart c = false) (hline : c ≠ '\n') (hdot : c ≠ '.') :
    (a.path out).Has c ↔ out.Has c := by
  have hsegment : ∀ s ∈ segments a.package, c ∉ s.toList := fun s hs =>
    not_mem_of_isIdentifier (isPackageName_iff.mp h.package s hs) hpart hline
  have hfile : c ∉ (fileName a.name).toList := by
    rw [toList_fileName, List.mem_append, not_or]
    refine ⟨not_mem_of_isIdentifier h.name hpart hline, ?_⟩
    rintro hending
    simp only [List.mem_cons, List.not_mem_nil, or_false, hdot, false_or] at hending
    rcases hending with rfl | rfl | rfl | rfl <;> exact absurd hpart (by decide)
  rw [h.path_eq]
  constructor
  · rintro ⟨part, hmem, hc⟩
    rcases List.mem_append.mp hmem with hout | hinner
    · exact ⟨part, hout, hc⟩
    · rcases List.mem_append.mp hinner with hs | hlast
      · exact absurd hc (hsegment part hs)
      · exact absurd (List.mem_singleton.mp hlast ▸ hc) hfile
  · rintro ⟨part, hmem, hc⟩
    exact ⟨part, List.mem_append_left _ hmem, hc⟩

theorem Legal.path_injective (ha : a.Legal) (hb : b.Legal) {out : Path}
    (h : a.path out = b.path out) : segments a.package = segments b.package ∧ a.name = b.name := by
  rw [ha.path_eq, hb.path_eq] at h
  have hparts := List.append_cancel_left (congrArg Path.parts h)
  obtain ⟨hs, hf⟩ := List.append_inj' hparts rfl
  exact ⟨hs, fileName_injective (List.singleton_inj.mp hf)⟩

/-- No step back leads out of the directories of a package. -/
theorem Legal.not_mem_way (h : a.Legal) : ".." ∉ segments a.package ++ [fileName a.name] := by
  intro hmem
  rcases List.mem_append.mp hmem with hseg | hfile
  · exact absurd (isPackageName_iff.mp h.package _ hseg) (by decide)
  · exact absurd (List.mem_singleton.mp hfile ▸ five_le_length_fileName a.name) (by decide)

theorem Legal.placeOf_eq (h : a.Legal) {t : FileTree} (ht : t.WellFormed) (out : Path) :
    t.placeOf (a.path out) = t.placeOf out ++ (segments a.package ++ [fileName a.name]) := by
  rw [FileTree.placeOf_eq_foldl ht, FileTree.placeOf_eq_foldl ht, h.path_eq, List.foldl_append]
  exact Path.foldl_enter_of_not_mem h.not_mem_way _

theorem Legal.placeOf_injective (ha : a.Legal) (hb : b.Legal) {t : FileTree} (ht : t.WellFormed)
    {out : Path} (h : t.placeOf (a.path out) = t.placeOf (b.path out)) :
    a.path out = b.path out := by
  rw [ha.placeOf_eq ht, hb.placeOf_eq ht] at h
  rw [ha.path_eq, hb.path_eq, List.append_cancel_left h]

/-- The file of an artifact lies below a directory, in the directories that its package names, and
no step leads back from there. -/
structure Below (a : Artifact) (out : Path) : Prop where
  anchor : (a.path out).anchor = out.anchor
  parts : (a.path out).parts = out.parts ++ (segments a.package ++ [a.name ++ ".java"])
  forward : ".." ∉ segments a.package ++ [a.name ++ ".java"]
  place : ∀ t : FileTree, t.WellFormed →
    t.placeOf (a.path out) = t.placeOf out ++ (segments a.package ++ [a.name ++ ".java"])

theorem Legal.below (h : a.Legal) (out : Path) : a.Below out :=
  ⟨by rw [h.path_eq], by rw [h.path_eq, fileName], h.not_mem_way, fun _ ht => h.placeOf_eq ht out⟩

/-- Paths tell packages and names, and nothing else. -/
theorem Legal.path_eq_iff (ha : a.Legal) (hb : b.Legal) (out : Path) :
    a.path out = b.path out ↔ a.package = b.package ∧ a.name = b.name := by
  constructor
  · intro h
    obtain ⟨hsegments, hname⟩ := ha.path_injective hb h
    exact ⟨segments_injective hsegments, hname⟩
  · rintro ⟨hpackage, hname⟩
    rw [path, path, hpackage, hname]

theorem nodup_places {as : List Artifact} (hlegal : ∀ a ∈ as, a.Legal) {out : Path}
    (hn : (as.map (·.path out)).Nodup) {t : FileTree} (ht : t.WellFormed) :
    (as.map fun a => t.placeOf (a.path out)).Nodup :=
  hn.of_map.map_on fun a ha b hb heq => List.inj_on_of_nodup_map hn ha hb
    ((hlegal a ha).placeOf_injective (hlegal b hb) ht heq)

end Artifact

end Java

end SchemaToJava
