import SchemaToJava.Proofs.FileTree.Writing

/-!
Paths that are refused for their names. One with a null character is refused before any file is
looked at, and no other path is refused that way; one with a name that is too long is refused where
the walk meets the name.
-/

namespace SchemaToJava.FileTree

variable {t : FileTree} {p : Path}

theorem hasNull_of_read (h : t.read p = .error .nullInPath) : hasNull p = true := by
  unfold read at h
  split at h
  · assumption
  · split at h <;> cases h

theorem hasNull_of_parent (h : hasNull p.parent = true) : hasNull p = true := by
  simp only [hasNull, Path.parent, List.any_eq_true] at h ⊢
  obtain ⟨part, hpart, hnull⟩ := h
  exact ⟨part, List.dropLast_subset _ hpart, hnull⟩

/-- A path that cannot be followed to its end: it is too long itself, or in a directory on its way
it has a name that is. -/
inductive TooLong (t : FileTree) (p : Path) : Prop where
  | text (long : longestPath < p.text.utf8ByteSize)
  | name {before after : List String} {name : String} {l : Location}
    (parts : p.parts = before ++ name :: after)
    (walk : before.foldlM t.step (t.start p) = .ok l) (directory : t.get? l = some .directory)
    (long : longestName < name.utf8ByteSize)

theorem step_eq_nameTooLong_iff {l : Location} {part : String} :
    t.step l part = .error .nameTooLong ↔
      t.get? l = some .directory ∧ longestName < part.utf8ByteSize := by
  unfold step
  split
  · rename_i hl
    simp [hl]
  · rename_i hl
    simp [hl]
  · rename_i hl
    by_cases hup : part = ".."
    · simp [hup, longestName, show "..".utf8ByteSize = 2 by decide]
    · by_cases hlong : longestName < part.utf8ByteSize <;> simp [hup, hlong, hl]

theorem foldlM_step_eq_error_iff {parts : List String} {l : Location} {r : FileError.Reason} :
    parts.foldlM t.step l = .error r ↔ ∃ before part after k,
      parts = before ++ part :: after ∧ before.foldlM t.step l = .ok k ∧
        t.step k part = .error r := by
  constructor
  · intro h
    induction parts generalizing l with
    | nil => cases h
    | cons part rest ih =>
      rw [List.foldlM_cons] at h
      rcases Outcome.bind_eq_error_iff.mp h with hfirst | ⟨m, hm, hrest⟩
      · exact ⟨[], part, rest, l, rfl, rfl, hfirst⟩
      · obtain ⟨before, x, after, k, rfl, hk, hx⟩ := ih hrest
        refine ⟨part :: before, x, after, k, rfl, ?_, hx⟩
        rw [List.foldlM_cons]
        exact Outcome.bind_eq_ok_iff.mpr ⟨m, hm, hk⟩
  · rintro ⟨before, part, after, k, rfl, hk, hpart⟩
    exact Outcome.foldlM_eq_error hk hpart

theorem locate_eq_nameTooLong_iff : t.locate p = .error .nameTooLong ↔ t.TooLong p := by
  unfold locate
  split
  · rename_i hlong
    exact iff_of_true rfl (.text hlong)
  · rename_i hfits
    rw [foldlM_step_eq_error_iff]
    constructor
    · rintro ⟨before, name, after, l, hparts, hl, hstep⟩
      obtain ⟨hdirectory, hlong⟩ := step_eq_nameTooLong_iff.mp hstep
      exact .name hparts hl hdirectory hlong
    · intro h
      cases h with
      | text hlong => exact absurd hlong hfits
      | name hparts hl hdirectory hlong =>
        exact ⟨_, _, _, _, hparts, hl, step_eq_nameTooLong_iff.mpr ⟨hdirectory, hlong⟩⟩

theorem find_eq_nameTooLong_iff : t.find p = .error .nameTooLong ↔ t.TooLong p := by
  rw [← locate_eq_nameTooLong_iff, find, Outcome.bind_eq_error_iff]
  refine or_iff_left ?_
  rintro ⟨l, -, hentry⟩
  split at hentry <;> cases hentry

/-- A path of which it cannot be told what it leads to. One with a null character leads nowhere. -/
def Unanswerable (t : FileTree) (p : Path) : Prop := hasNull p = false ∧ t.TooLong p

theorem find?_eq_error_iff {e : FileError} :
    t.find? p = .error e ↔ t.Unanswerable p ∧ e = .refused .nameTooLong p := by
  rw [Unanswerable, ← find_eq_nameTooLong_iff]
  unfold find?
  by_cases hnull : hasNull p = true
  · simp [hnull]
  · rw [if_neg hnull, and_iff_right (Bool.eq_false_iff.mpr hnull)]
    split
    · rename_i hfind
      simp [hfind]
    · rename_i hfind
      simp [hfind, eq_comm (a := e)]
    · rename_i hother hfind
      simp only [hfind, reduceCtorEq, Except.error.injEq, false_iff, not_and]
      exact fun h => absurd h hother

theorem utf8ByteSize_replicate (n : Nat) :
    (String.ofList (List.replicate n 'a')).utf8ByteSize = n := by
  induction n with
  | zero => rfl
  | succ n ih =>
    rw [List.replicate_succ', String.ofList_append, String.utf8ByteSize_append, ih]
    rfl

theorem find?_of_longName {name : String} {rest : List String}
    (hhome : t.get? t.home = some .directory)
    (hnull : hasNull ⟨.working, name :: rest⟩ = false)
    (hlong : longestName < name.utf8ByteSize) :
    t.find? ⟨.working, name :: rest⟩ =
      .error (.refused .nameTooLong ⟨.working, name :: rest⟩) :=
  find?_eq_error_iff.mpr ⟨⟨hnull, .name (List.nil_append _).symm rfl hhome hlong⟩, rfl⟩

end SchemaToJava.FileTree
