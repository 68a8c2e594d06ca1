import SchemaToJava.Proofs.FileTree.Refusal

/-!
Trees that lie within others. If all that is there is of the same kind in a larger tree, nothing
stands in the way of what the larger tree has besides: its directories can be created, and its files
can be written.
-/

namespace SchemaToJava

theorem utf8ByteSize_intercalate_le (separator s : String) (ss : List String) :
    (separator.intercalate ss).utf8ByteSize ≤ (separator.intercalate (ss ++ [s])).utf8ByteSize := by
  induction ss with
  | nil => simp
  | cons t rest ih =>
    have hlonger : separator.intercalate (t :: (rest ++ [s])) =
        t ++ separator ++ separator.intercalate (rest ++ [s]) :=
      String.intercalate_cons_of_ne_nil (by simp)
    rw [List.cons_append, hlonger]
    cases rest with
    | nil =>
      simp only [List.nil_append, String.intercalate_singleton, String.utf8ByteSize_append]
      omega
    | cons r rest =>
      rw [String.intercalate_cons_of_ne_nil (by simp)]
      simp only [String.utf8ByteSize_append]
      omega

theorem Path.utf8ByteSize_text_parent (p : Path) :
    p.parent.text.utf8ByteSize ≤ max 1 p.text.utf8ByteSize := by
  by_cases hparent : p.parent = here
  · rw [text, if_pos hparent]
    exact Nat.le_max_left _ _
  · obtain ⟨anchor, parts⟩ := p
    rcases parts.eq_nil_or_concat' with rfl | ⟨parts, part, rfl⟩
    · exact Nat.le_max_right _ _
    · have hself : (⟨anchor, parts ++ [part]⟩ : Path) ≠ here := by simp [here]
      rw [text, if_neg hparent, text, if_neg hself]
      simp only [parent, List.dropLast_concat, String.utf8ByteSize_append]
      exact Nat.le_trans (Nat.add_le_add_left (utf8ByteSize_intercalate_le _ _ _) _)
        (Nat.le_max_right _ _)

namespace FileTree

theorem isDirectory_parent {t : FileTree} {p : Path} (ht : t.WellFormed) (hnull : hasNull p = false)
    {l : Location} (hl : t.locate p = .ok l) : t.isDirectory p.parent = true := by
  obtain ⟨hsize, hwalk⟩ := locate_eq_ok_iff.mp hl
  have hparent : hasNull p.parent = false := Bool.eq_false_iff.mpr fun hp => by
    rw [hasNull_of_parent hp] at hnull
    cases hnull
  have hfits : p.parent.text.utf8ByteSize ≤ longestPath :=
    Nat.le_trans p.utf8ByteSize_text_parent (Nat.max_le.mpr ⟨by decide, hsize⟩)
  rcases p.parts.eq_nil_or_concat' with hnil | ⟨parts, part, hparts⟩
  · refine isDirectory_iff.mpr ⟨hparent, t.start p, locate_eq_ok_iff.mpr ⟨hfits, ?_⟩,
      ht.start_directory p⟩
    rw [Path.parent, hnil]
    rfl
  · rw [hparts] at hwalk
    obtain ⟨k, hk, hstep⟩ := foldlM_step_concat.mp hwalk
    refine isDirectory_iff.mpr ⟨hparent, k, locate_eq_ok_iff.mpr ⟨hfits, ?_⟩,
      (step_eq_ok_iff.mp hstep).1⟩
    rw [Path.parent, hparts, List.dropLast_concat]
    exact hk

theorem get?_congr {t u : FileTree} {l : Location} (hfiles : u.fileAt? l = t.fileAt? l)
    (hdirectories : u.get? l = some .directory ↔ t.get? l = some .directory) :
    u.get? l = t.get? l := by
  unfold fileAt? at hfiles
  cases hu : u.get? l with
  | none =>
    cases ht : t.get? l with
    | none => rfl
    | some e => cases e <;> simp_all
  | some e =>
    cases e with
    | directory => exact (hdirectories.mp hu).symm
    | file bytes =>
      cases ht : t.get? l with
      | none => simp_all
      | some f => cases f <;> simp_all

/-- All that `t` has is in `u` as well: directories as directories, files as files. What the files
hold may differ. -/
structure Within (t u : FileTree) : Prop where
  home : t.home = u.home
  directories : ∀ {l : Location}, t.get? l = some .directory → u.get? l = some .directory
  files : ∀ {l : Location}, (t.fileAt? l).isSome = true → (u.fileAt? l).isSome = true

theorem isSome_fileAt?_iff {t : FileTree} {l : Location} :
    (t.fileAt? l).isSome = true ↔ ∃ bytes, t.get? l = some (.file bytes) := by
  simp only [Option.isSome_iff_exists, fileAt?_eq_some_iff]

theorem Wrote.within {t u : FileTree} {files : List (Location × List UInt8)}
    (h : t.Wrote files u) : t.Within u where
  home := h.home.symm
  directories := h.directories _
  files := by
    intro l hl
    rw [h.files, Option.isSome_or, hl, Bool.or_true]

namespace Within

variable {t u v : FileTree} {p : Path} {l : Location}

theorem refl (t : FileTree) : t.Within t := ⟨rfl, id, id⟩

theorem of_append {new : List (Location × Entry)} (hn : ((new ++ t.entries).map (·.1)).Nodup) :
    t.Within ⟨t.home, new ++ t.entries⟩ := by
  have hget : ∀ {l e}, t.get? l = some e →
      (⟨t.home, new ++ t.entries⟩ : FileTree).get? l = some e := by
    intro l e hl
    by_cases hroot : l = []
    · rw [hroot] at hl ⊢
      exact hl
    · rw [get?, if_neg hroot]
      exact Entries.lookup_of_mem hn (List.mem_append_right _ (mem_entries_of_get? hl hroot))
  refine ⟨rfl, hget, fun {l} hl => ?_⟩
  obtain ⟨bytes, hfile⟩ := isSome_fileAt?_iff.mp hl
  exact isSome_fileAt?_iff.mpr ⟨bytes, hget hfile⟩

theorem of_directory (h : t.Within u) (hl : u.get? l = some .directory) :
    t.get? l = none ∨ t.get? l = some .directory := by
  cases ht : t.get? l with
  | none => exact .inl rfl
  | some e =>
    cases e with
    | directory => exact .inr rfl
    | file bytes =>
      obtain ⟨held, hheld⟩ := isSome_fileAt?_iff.mp (h.files (isSome_fileAt?_iff.mpr ⟨bytes, ht⟩))
      rw [hl] at hheld
      cases hheld

theorem ne_directory (h : t.Within u) (hl : (u.fileAt? l).isSome = true) :
    t.get? l ≠ some .directory := by
  intro ht
  obtain ⟨bytes, hfile⟩ := isSome_fileAt?_iff.mp hl
  rw [h.directories ht] at hfile
  cases hfile

theorem insert_directory (h : t.Within u) (hne : l ≠ []) (hfree : t.get? l = none)
    (hl : u.get? l = some .directory) : (t.insert l .directory).Within u where
  home := h.home
  directories := by
    intro m hm
    rw [get?_insert hne] at hm
    split at hm
    · rename_i heq
      exact heq ▸ hl
    · exact h.directories hm
  files := by
    intro m hm
    rw [fileAt?_insert_directory hne hfree] at hm
    exact h.files hm

theorem insert_file (h : t.Within u) (hne : l ≠ []) (hl : (u.fileAt? l).isSome = true)
    (bytes : List UInt8) : (t.insert l (.file bytes)).Within u where
  home := h.home
  directories := by
    intro m hm
    rw [get?_insert hne] at hm
    split at hm
    · cases hm
    · exact h.directories hm
  files := by
    intro m hm
    rw [fileAt?_insert_file hne] at hm
    split at hm
    · rename_i heq
      exact heq ▸ hl
    · exact h.files hm

/-- A walk in the larger tree leads to the same place, or to where something is missing. -/
theorem foldlM_step (h : t.Within u) {parts : List String} {k : Location}
    (hl : parts.foldlM u.step k = .ok l) :
    parts.foldlM t.step k = .ok l ∨ parts.foldlM t.step k = .error .notFound := by
  induction parts generalizing k with
  | nil => exact .inl hl
  | cons part rest ih =>
    rw [List.foldlM_cons] at hl ⊢
    obtain ⟨m, hm, hrest⟩ := Outcome.bind_eq_ok_iff.mp hl
    obtain ⟨hk, hpart⟩ := step_eq_ok_iff.mp hm
    rcases h.of_directory hk with hnone | hdirectory
    · have hmissing : t.step k part = .error .notFound := by
        rw [step, hnone]
      exact .inr (Outcome.bind_eq_error_iff.mpr (.inl hmissing))
    · have hsame : t.step k part = .ok m := step_eq_ok_iff.mpr ⟨hdirectory, hpart⟩
      rw [hsame]
      exact ih hrest

theorem start (h : t.Within u) (p : Path) : t.start p = u.start p := by
  rw [FileTree.start, FileTree.start, h.home]

theorem locate (h : t.Within u) (hl : u.locate p = .ok l) :
    t.locate p = .ok l ∨ t.locate p = .error .notFound := by
  obtain ⟨hsize, hwalk⟩ := locate_eq_ok_iff.mp hl
  rw [← h.start] at hwalk
  unfold FileTree.locate
  rw [if_neg (Nat.not_lt.mpr hsize)]
  exact h.foldlM_step hwalk

theorem locate_of_parent (h : t.Within u) (hl : u.locate p = .ok l)
    (hparent : t.isDirectory p.parent = true) : t.locate p = .ok l := by
  obtain ⟨hsize, hwalk⟩ := locate_eq_ok_iff.mp hl
  refine locate_eq_ok_iff.mpr ⟨hsize, ?_⟩
  rcases p.parts.eq_nil_or_concat' with hnil | ⟨parts, part, hparts⟩
  · rw [hnil, h.start]
    rwa [hnil] at hwalk
  · obtain ⟨-, k, hk, hdirectory⟩ := isDirectory_iff.mp hparent
    have hup : parts.foldlM t.step (t.start p) = .ok k := by
      have hk := (locate_eq_ok_iff.mp hk).2
      rwa [Path.parent, hparts, List.dropLast_concat] at hk
    rw [hparts] at hwalk ⊢
    obtain ⟨k', hk', hstep⟩ := foldlM_step_concat.mp hwalk
    obtain ⟨-, hpart⟩ := step_eq_ok_iff.mp hstep
    have hsame : k' = k := by
      rw [eq_foldl_of_foldlM_step hk', eq_foldl_of_foldlM_step hup, h.start]
    exact foldlM_step_concat.mpr ⟨k, hup, step_eq_ok_iff.mpr ⟨hdirectory, hsame ▸ hpart⟩⟩

/-- Where a directory of the larger tree can be reached, it is there or can be created. -/
theorem exists_makeDirectory (h : t.Within u) (ht : t.WellFormed) (hp : u.isDirectory p = true)
    (hl : t.locate p = .ok l) :
    (∃ v, t.makeDirectory p = .ok v ∧ v.Within u ∧ v.isDirectory p = true) ∨
      t.makeDirectory p = .error (.refused .alreadyThere p) ∧ t.isDirectory p = true := by
  obtain ⟨hnull, m, hm, hdirectory⟩ := isDirectory_iff.mp hp
  have hml : m = l := by
    rcases h.locate hm with hsame | hmissing
    · exact Except.ok.inj (hsame.symm.trans hl)
    · rw [hl] at hmissing
      cases hmissing
  rw [hml] at hdirectory
  rcases h.of_directory hdirectory with hfree | hthere
  · have hne : l ≠ [] := by
      rintro rfl
      cases hfree
    have hmake : t.makeDirectory p = .ok (t.insert l .directory) :=
      makeDirectory_eq_ok_iff.mpr ⟨hnull, l, hl, hfree, rfl⟩
    refine .inl ⟨_, hmake, h.insert_directory hne hfree hdirectory, ?_⟩
    refine isDirectory_iff.mpr ⟨hnull, l, (Wrote.of_makeDirectory ht hmake).locate hl, ?_⟩
    rw [get?_insert hne, if_pos rfl]
  · refine .inr ⟨?_, isDirectory_iff.mpr ⟨hnull, l, hl, hthere⟩⟩
    simp [makeDirectory, hnull, hl, hthere]

theorem exists_makeDirectories {p : Path} (h : t.Within u) (ht : t.WellFormed) (hu : u.WellFormed)
    (hp : u.isDirectory p = true) :
    ∃ v, t.makeDirectories p = (v, .ok ()) ∧ v.Within u ∧ v.isDirectory p = true := by
  obtain ⟨hnull, l, hl, -⟩ := isDirectory_iff.mp hp
  rcases h.locate hl with hlocated | hmissing
  · rw [makeDirectories]
    rcases h.exists_makeDirectory ht hp hlocated with ⟨v, hmake, hv, hthere⟩ | ⟨hmake, hthere⟩
    · exact ⟨v, by rw [hmake], hv, hthere⟩
    · refine ⟨t, ?_, h, hthere⟩
      rw [hmake]
      simp [settle, hthere]
  · -- Something above is missing, so the directories above come first.
    have hne : p.parts ≠ [] := by
      intro hnil
      unfold FileTree.locate at hmissing
      rw [hnil] at hmissing
      split at hmissing <;> cases hmissing
    have hmake : t.makeDirectory p = .error (.refused .notFound p) := by
      simp [makeDirectory, hnull, hmissing]
    obtain ⟨v, hup, hv, hparent⟩ := exists_makeDirectories h ht hu
      (isDirectory_parent hu hnull hl)
    have hwf : v.WellFormed := (Wrote.of_makeDirectories_eq ht hup).wellFormed
    rw [makeDirectories, hmake]
    dsimp only
    rw [dif_neg hne, hup]
    dsimp only
    rcases hv.exists_makeDirectory hwf hp (hv.locate_of_parent hl hparent) with
      ⟨w, hmake, hw, hthere⟩ | ⟨hmake, hthere⟩
    · exact ⟨w, by rw [hmake], hw, hthere⟩
    · refine ⟨v, ?_, hv, hthere⟩
      rw [hmake]
      simp [settle, hthere]
termination_by p.parts.length
decreasing_by
  rw [Path.length_parts_parent]
  have := List.length_pos_iff.mpr hne
  omega

theorem exists_write (h : t.Within u) (ht : t.WellFormed) (hu : u.WellFormed) {old : List UInt8}
    (hp : u.read p = .ok old) (bytes : List UInt8) :
    ∃ v w, t.makeDirectories p.parent = (v, .ok ()) ∧ v.write p bytes = .ok w ∧ w.Within u := by
  obtain ⟨hnull, l, hl, hfile⟩ := read_eq_ok_iff.mp hp
  have hthere : (u.fileAt? l).isSome = true := by rw [hfile, Option.isSome_some]
  obtain ⟨v, hdirs, hv, hparent⟩ := h.exists_makeDirectories ht hu (isDirectory_parent hu hnull hl)
  have hne : l ≠ [] := by
    rintro rfl
    cases fileAt?_eq_some_iff.mp hfile
  exact ⟨v, _, hdirs, write_eq_ok_iff.mpr ⟨hnull, l, hv.locate_of_parent hl hparent,
    hv.ne_directory hthere, rfl⟩, hv.insert_file hne hthere bytes⟩

end Within

end FileTree

end SchemaToJava
