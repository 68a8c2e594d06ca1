import SchemaToJava.Proofs.FileTree.WellFormed

/-!
What writing leaves behind. Files are written one after another, directories are created in
between, and nothing else changes; so a path that led somewhere still does, and a file that was not
written reads as before.
-/

namespace SchemaToJava.FileTree

theorem read_eq_ok_iff {t : FileTree} {p : Path} {bytes : List UInt8} :
    t.read p = .ok bytes ↔
      hasNull p = false ∧ ∃ l, t.locate p = .ok l ∧ t.fileAt? l = some bytes := by
  simp only [fileAt?_eq_some_iff, ← find_eq_ok_iff]
  unfold read
  by_cases hn : hasNull p
  · simp [hn]
  · cases hfind : t.find p with
    | error r => simp [hn]
    | ok e => cases e <;> simp [hn]

theorem isDirectory_iff {t : FileTree} {p : Path} :
    t.isDirectory p = true ↔
      hasNull p = false ∧ ∃ l, t.locate p = .ok l ∧ t.get? l = some .directory := by
  rw [← find_eq_ok_iff]
  unfold isDirectory find?
  by_cases hn : hasNull p
  · simp [hn]
  · cases hfind : t.find p with
    | error r => cases r <;> simp [hn]
    | ok e => cases e <;> simp [hn]

/-- Puts an entry where a path leads, unless there is an objection to what is there. -/
def place (t : FileTree) (p : Path) (objection : Option Entry → Option FileError.Reason)
    (e : Entry) : Except FileError FileTree :=
  if hasNull p then .error .nullInPath
  else
    match t.locate p with
    | .error r => .error (.refused r p)
    | .ok l =>
      match objection (t.get? l) with
      | some r => .error (.refused r p)
      | none => .ok (t.insert l e)

def directoryObjection : Option Entry → Option FileError.Reason
  | some .directory => some .isDirectory
  | _ => none

def entryObjection : Option Entry → Option FileError.Reason
  | some _ => some .alreadyThere
  | none => none

theorem directoryObjection_eq_none_iff {o : Option Entry} :
    directoryObjection o = none ↔ o ≠ some .directory := by
  unfold directoryObjection
  split <;> simp_all

theorem entryObjection_eq_none_iff {o : Option Entry} : entryObjection o = none ↔ o = none := by
  cases o <;> simp [entryObjection]

theorem write_eq_place (t : FileTree) (p : Path) (bytes : List UInt8) :
    t.write p bytes = t.place p directoryObjection (.file bytes) := by
  unfold write place
  cases t.locate p with
  | error r => rfl
  | ok l =>
    cases h : t.get? l with
    | none => simp [h, directoryObjection]
    | some e => cases e <;> simp [h, directoryObjection]

theorem makeDirectory_eq_place (t : FileTree) (p : Path) :
    t.makeDirectory p = t.place p entryObjection .directory := by
  unfold makeDirectory place
  cases t.locate p with
  | error r => rfl
  | ok l => cases h : t.get? l <;> simp [h, entryObjection]

section Place

variable {t u : FileTree} {p : Path} {e : Entry}
  {objection : Option Entry → Option FileError.Reason}

theorem place_eq_ok_iff :
    t.place p objection e = .ok u ↔
      hasNull p = false ∧ ∃ l, t.locate p = .ok l ∧ objection (t.get? l) = none ∧
        u = t.insert l e := by
  unfold place
  by_cases hn : hasNull p
  · simp [hn]
  · cases hl : t.locate p with
    | error r => simp [hn]
    | ok l => cases hr : objection (t.get? l) <;> simp [hn, hr, eq_comm]

theorem WellFormed.place (ht : t.WellFormed) (hobjection : objection (some .directory) ≠ none)
    (h : t.place p objection e = .ok u) : u.WellFormed := by
  obtain ⟨-, l, hl, hfree, rfl⟩ := place_eq_ok_iff.mp h
  have hne : t.get? l ≠ some .directory := fun hl => hobjection (hl ▸ hfree)
  obtain ⟨k, name, rfl, hk, hname⟩ := exists_concat_of_locate ht hl hne
  exact ht.insert hk hname hne e

end Place

theorem write_eq_ok_iff {t u : FileTree} {p : Path} {bytes : List UInt8} :
    t.write p bytes = .ok u ↔
      hasNull p = false ∧ ∃ l, t.locate p = .ok l ∧ t.get? l ≠ some .directory ∧
        u = t.insert l (.file bytes) := by
  rw [write_eq_place, place_eq_ok_iff]
  simp only [directoryObjection_eq_none_iff]

theorem makeDirectory_eq_ok_iff {t u : FileTree} {p : Path} :
    t.makeDirectory p = .ok u ↔
      hasNull p = false ∧ ∃ l, t.locate p = .ok l ∧ t.get? l = none ∧
        u = t.insert l .directory := by
  rw [makeDirectory_eq_place, place_eq_ok_iff]
  simp only [entryObjection_eq_none_iff]

theorem WellFormed.write {t u : FileTree} (ht : t.WellFormed) {p : Path} {bytes : List UInt8}
    (h : t.write p bytes = .ok u) : u.WellFormed :=
  ht.place (Option.some_ne_none _) (write_eq_place t p bytes ▸ h)

theorem WellFormed.makeDirectory {t u : FileTree} (ht : t.WellFormed) {p : Path}
    (h : t.makeDirectory p = .ok u) : u.WellFormed :=
  ht.place (Option.some_ne_none _) (makeDirectory_eq_place t p ▸ h)

theorem settle_fst (t : FileTree) (p : Path) (e : FileError) : (t.settle p e).1 = t := by
  unfold settle
  split <;> rfl

theorem fileAt?_insert_file {l : Location} (hl : l ≠ []) (t : FileTree) (bytes : List UInt8)
    (m : Location) :
    (t.insert l (.file bytes)).fileAt? m = if m = l then some bytes else t.fileAt? m := by
  unfold fileAt?
  rw [get?_insert hl]
  by_cases hm : m = l
  · simp [hm]
  · simp [hm]

theorem fileAt?_insert_directory {t : FileTree} {l : Location} (hl : l ≠ [])
    (hfree : t.get? l = none) (m : Location) :
    (t.insert l .directory).fileAt? m = t.fileAt? m := by
  unfold fileAt?
  rw [get?_insert hl]
  by_cases hm : m = l
  · simp [hm, hfree]
  · simp [hm]

theorem directory_insert {t : FileTree} {l : Location} (hl : l ≠ [])
    (hfree : t.get? l ≠ some .directory) (e : Entry) {m : Location}
    (hm : t.get? m = some .directory) : (t.insert l e).get? m = some .directory := by
  rw [get?_insert hl, if_neg]
  · exact hm
  · rintro rfl
    exact hfree hm

theorem get?_of_write {t u : FileTree} (ht : t.WellFormed) {p : Path} {bytes : List UInt8}
    (h : t.write p bytes = .ok u) (l : Location) :
    u.get? l = if l = t.placeOf p then some (.file bytes) else t.get? l := by
  obtain ⟨-, m, hm, hfree, rfl⟩ := write_eq_ok_iff.mp h
  rw [get?_insert (ne_nil_of_get? hfree), eq_placeOf_of_locate ht hm]

theorem makeDirectories_of_isDirectory {t : FileTree} {p : Path} (h : t.isDirectory p = true) :
    t.makeDirectories p = (t, .ok ()) := by
  obtain ⟨hnull, m, hm, hentry⟩ := isDirectory_iff.mp h
  have hthere : t.makeDirectory p = .error (.refused .alreadyThere p) := by
    simp [makeDirectory, hnull, hm, hentry]
  rw [makeDirectories, hthere]
  simp [settle, h]

/-- In `u` the given files have been written, one after another, over what `t` holds. Directories
may have been created as well. -/
structure Wrote (t : FileTree) (files : List (Location × List UInt8)) (u : FileTree) : Prop where
  home : u.home = t.home
  wellFormed : u.WellFormed
  directories : ∀ l, t.get? l = some .directory → u.get? l = some .directory
  files : ∀ l, u.fileAt? l = (files.reverse.lookup l).or (t.fileAt? l)

namespace Wrote

variable {t u v : FileTree} {files more : List (Location × List UInt8)}

theorem refl (ht : t.WellFormed) : Wrote t [] t :=
  ⟨rfl, ht, fun _ h => h, fun _ => rfl⟩

theorem trans (h : Wrote t files u) (k : Wrote u more v) : Wrote t (files ++ more) v where
  home := k.home.trans h.home
  wellFormed := k.wellFormed
  directories := fun l hl => k.directories l (h.directories l hl)
  files := by
    intro l
    rw [k.files, h.files, List.reverse_append, List.lookup_append, Option.or_assoc]

theorem of_write (ht : t.WellFormed) {p : Path} {bytes : List UInt8}
    (h : t.write p bytes = .ok u) : Wrote t [(t.placeOf p, bytes)] u := by
  have hu := ht.write h
  obtain ⟨-, l, hl, hfree, rfl⟩ := write_eq_ok_iff.mp h
  have hne := ne_nil_of_get? hfree
  rw [← eq_placeOf_of_locate ht hl]
  refine ⟨rfl, hu, fun m hm => directory_insert hne hfree _ hm, fun m => ?_⟩
  rw [fileAt?_insert_file hne, List.reverse_singleton, List.lookup_cons]
  by_cases hm : m = l
  · simp [hm]
  · simp [hm, beq_eq_false_iff_ne.mpr hm]

theorem of_makeDirectory (ht : t.WellFormed) {p : Path} (h : t.makeDirectory p = .ok u) :
    Wrote t [] u := by
  have hu := ht.makeDirectory h
  obtain ⟨-, l, hl, hfree, rfl⟩ := makeDirectory_eq_ok_iff.mp h
  have hother : t.get? l ≠ some .directory := by simp [hfree]
  have hne := ne_nil_of_get? hother
  exact ⟨rfl, hu, fun m hm => directory_insert hne hother _ hm,
    fileAt?_insert_directory hne hfree⟩

/-- Creating directories writes no file, also where it fails. -/
theorem of_makeDirectories (ht : t.WellFormed) (p : Path) : Wrote t [] (t.makeDirectories p).1 := by
  fun_induction makeDirectories t p with
  | case1 p u h => exact of_makeDirectory ht h
  | case2 p q h hnil => exact refl ht
  | case3 p q h hnil u e hup ih => simpa [hup] using ih
  | case4 p q h hnil u r hup v hv ih =>
    have hu : Wrote t [] u := by simpa [hup] using ih
    exact hu.trans (of_makeDirectory hu.wellFormed hv)
  | case5 p q h hnil u r hup e he ih =>
    rw [settle_fst]
    simpa [hup] using ih
  | case6 p e h hne =>
    rw [settle_fst]
    exact refl ht

theorem of_makeDirectories_eq (ht : t.WellFormed) {p : Path} {r : Except FileError Unit}
    (h : t.makeDirectories p = (u, r)) : Wrote t [] u := by
  have hwrote := of_makeDirectories ht p
  rwa [h] at hwrote

theorem placeOf (h : Wrote t files u) (p : Path) : u.placeOf p = t.placeOf p := by
  rw [FileTree.placeOf, FileTree.placeOf, h.home]

theorem start (h : Wrote t files u) (p : Path) : u.start p = t.start p := by
  rw [FileTree.start, FileTree.start, h.home]

theorem locate (h : Wrote t files u) {p : Path} {l : Location} (hl : t.locate p = .ok l) :
    u.locate p = .ok l := by
  rw [locate_eq_ok_iff] at hl ⊢
  rw [h.start]
  exact ⟨hl.1, foldlM_step_mono h.directories hl.2⟩

theorem fileAt?_eq (h : Wrote t files u) {l : Location} (hfree : l ∉ files.map (·.1)) :
    u.fileAt? l = t.fileAt? l := by
  have hnone : files.reverse.lookup l = none := by
    rw [List.lookup_eq_none_iff]
    intro x hx
    rw [bne_iff_ne]
    rintro rfl
    exact hfree (List.mem_map.mpr ⟨x, List.mem_reverse.mp hx, rfl⟩)
  rw [h.files, hnone, Option.none_or]

theorem get?_file (h : Wrote t files u) {l : Location} {bytes : List UInt8}
    (hl : t.get? l = some (.file bytes)) (hfree : l ∉ files.map (·.1)) :
    u.get? l = some (.file bytes) := by
  rw [← fileAt?_eq_some_iff, h.fileAt?_eq hfree, fileAt?_eq_some_iff.mpr hl]

theorem get?_eq_some (h : Wrote t [] u) {l : Location} {e : Entry} (he : t.get? l = some e) :
    u.get? l = some e := by
  cases e with
  | directory => exact h.directories l he
  | file bytes => exact h.get?_file he (by simp)

/-- New directories do not open the way to what is there, unless the way leads back up. -/
theorem locate_of_get? (ht : t.WellFormed) (h : Wrote t [] u) {p : Path} (hdown : ".." ∉ p.parts)
    {l : Location} (hl : u.locate p = .ok l) {e : Entry} (he : t.get? l = some e) :
    t.locate p = .ok l := by
  obtain ⟨hsize, hwalk⟩ := locate_eq_ok_iff.mp hl
  have hway : l = t.start p ++ p.parts := by
    rw [eq_foldl_of_foldlM_step hwalk, Path.foldl_enter_of_not_mem hdown, h.start]
  have hsame := foldlM_step_congr ht h.wellFormed (hway ▸ he) (hway ▸ h.get?_eq_some he)
  rw [h.start, ← hsame] at hwalk
  exact locate_eq_ok_iff.mpr ⟨hsize, hwalk⟩

theorem find_eq (ht : t.WellFormed) (h : Wrote t files u) {p : Path} {way : List String}
    {l : Location} {bytes : List UInt8} (hl : t.locate p = .ok l)
    (hfile : t.get? (l ++ way) = some (.file bytes)) (hfree : l ++ way ∉ files.map (·.1)) :
    u.find ⟨p.anchor, p.parts ++ way⟩ = t.find ⟨p.anchor, p.parts ++ way⟩ := by
  -- Both walks come to `l`; below it they pass the directories above the file, which are the same.
  have hnew := h.get?_file hfile hfree
  have hto := (locate_eq_ok_iff.mp hl).2
  have hup := (locate_eq_ok_iff.mp (h.locate hl)).2
  have hway : ".." ∉ way := fun hmem => ht.not_mem hfile (List.mem_append_right _ hmem)
  have hsame := foldlM_step_congr ht h.wellFormed hfile hnew
  have hwalk : u.locate ⟨p.anchor, p.parts ++ way⟩ = t.locate ⟨p.anchor, p.parts ++ way⟩ := by
    have htw : (p.parts ++ way).foldlM t.step (t.start p) = way.foldlM t.step l := by
      rw [List.foldlM_append, hto]
      rfl
    have huw : (p.parts ++ way).foldlM u.step (u.start p) = way.foldlM t.step l := by
      rw [List.foldlM_append, hup, hsame]
      rfl
    unfold FileTree.locate
    exact congrArg _ (huw.trans htw.symm)
  unfold find
  rw [hwalk]
  cases hm : t.locate ⟨p.anchor, p.parts ++ way⟩ with
  | error r => rfl
  | ok m =>
    have hml : m = l ++ way := by
      have hall := eq_foldl_of_foldlM_step (locate_eq_ok_iff.mp hm).2
      have hbase := eq_foldl_of_foldlM_step hto
      rw [hall, List.foldl_append, hbase]
      exact Path.foldl_enter_of_not_mem hway _
    simp only [bind, Except.bind, hml, hnew, hfile]

/-- The last write to a place is what is read there. -/
theorem read (h : Wrote t files u) {p : Path} {l : Location} {bytes : List UInt8}
    (hn : hasNull p = false) (hl : u.locate p = .ok l)
    (hlast : files.reverse.lookup l = some bytes) : u.read p = .ok bytes := by
  refine read_eq_ok_iff.mpr ⟨hn, l, hl, ?_⟩
  rw [h.files, hlast, Option.some_or]

end Wrote

theorem read_congr {t u : FileTree} {p : Path} (h : u.find p = t.find p) : u.read p = t.read p := by
  unfold read
  rw [h]

theorem isDirectory_congr {t u : FileTree} {p : Path} (h : u.find p = t.find p) :
    u.isDirectory p = t.isDirectory p := by
  unfold isDirectory find?
  rw [h]

end SchemaToJava.FileTree
