import SchemaToJava.Proofs.Bootstrap
import SchemaToJava.Proofs.Generation.Beside
import SchemaToJava.Proofs.Generation.Escape

/-!
What the creation of the base schema file changes. What is there stays, a second creation does
nothing, and a generation that leaves the file out does not notice it. Only a path that leads back
out of a directory that has to be created first can reach a file that was not seen before.
-/

namespace SchemaToJava.Bootstrap

variable {t u : FileTree} {directory : Path} {o : Except Fault Bool} {es : List Event}

/-- The path of the base schema file leads back out of a directory, and cannot be followed as long
as directories on it are missing. Whether there is a file at its end is not seen. -/
structure Hidden (t : FileTree) (directory : Path) : Prop where
  detour : ".." ∈ directory.parts
  closed : t.isDirectory directory = false
  unseen : t.find? (file directory) = .ok none

theorem up_mem_of_file (h : ".." ∈ (file directory).parts) : ".." ∈ directory.parts := by
  have hname : ".." ≠ Config.bootstrapFile := by decide
  rw [file_eq] at h
  simpa [hname] using h

theorem hidden_of_get? (ht : t.WellFormed) {v : FileTree}
    (hfind : t.find? (file directory) = .ok none)
    (hmake : t.makeDirectories directory = (v, .ok ()))
    (hwrite : v.write (file directory) (Text.Utf8.encode content) = .ok u) {e : Entry}
    (he : t.get? (t.placeOf (file directory)) = some e) : Hidden t directory := by
  have hwrote := FileTree.Wrote.of_makeDirectories_eq ht hmake
  obtain ⟨hnull, m, hm, -, -⟩ := FileTree.write_eq_ok_iff.mp hwrite
  have hplace : m = t.placeOf (file directory) :=
    (FileTree.eq_placeOf_of_locate hwrote.wellFormed hm).trans (hwrote.placeOf _)
  rw [← hplace] at he
  have hlost : t.locate (file directory) ≠ .ok m := by
    intro hthere
    cases he.symm.trans (FileTree.get?_eq_none_of_find? hfind hnull hthere)
  refine ⟨?_, ?_, hfind⟩
  · by_contra hdown
    exact hlost (hwrote.locate_of_get? ht (fun hup => hdown (up_mem_of_file hup)) hm he)
  · rw [Bool.eq_false_iff]
    intro hthere
    cases hmake.symm.trans (FileTree.makeDirectories_of_isDirectory hthere)
    exact hlost hm

theorem Creates.get? (ht : t.WellFormed) (h : Creates t directory o es u) {l : Location} {e : Entry}
    (he : t.get? l = some e) :
    u.get? l = some e ∨ Hidden t directory ∧ l = t.placeOf (file directory) := by
  cases h with
  | unanswered => exact .inl he
  | there => exact .inl he
  | noDirectory _ hmake =>
    exact .inl ((FileTree.Wrote.of_makeDirectories_eq ht hmake).get?_eq_some he)
  | refused _ hmake =>
    exact .inl ((FileTree.Wrote.of_makeDirectories_eq ht hmake).get?_eq_some he)
  | created hfind hmake hwrite =>
    have hwrote := FileTree.Wrote.of_makeDirectories_eq ht hmake
    by_cases hl : l = t.placeOf (file directory)
    · exact .inr ⟨hidden_of_get? ht hfind hmake hwrite (hl ▸ he), hl⟩
    · rw [← hwrote.placeOf] at hl
      rw [FileTree.get?_of_write hwrote.wellFormed hwrite, if_neg hl]
      exact .inl (hwrote.get?_eq_some he)

theorem Creates.leadsTo (ht : t.WellFormed) (h : Creates t directory (.ok true) es u) :
    ∃ l, u.LeadsTo (file directory) l (.file (Text.Utf8.encode content)) := by
  cases h with
  | created _ hmake hwrite =>
    have hwrote := FileTree.Wrote.of_makeDirectories_eq ht hmake
    exact ⟨_, FileTree.leadsTo_of_write hwrote.wellFormed hwrite⟩

theorem Creates.find? (ht : t.WellFormed) {created : Bool}
    (h : Creates t directory (.ok created) es u) :
    ∃ e, u.find? (file directory) = .ok (some e) := by
  cases created with
  | true => exact ⟨_, FileTree.find?_eq_some_iff.mpr (h.leadsTo ht)⟩
  | false =>
    cases h with
    | there hfind => exact ⟨_, hfind⟩

end SchemaToJava.Bootstrap
