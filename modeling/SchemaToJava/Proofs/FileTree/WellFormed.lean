import Mathlib.Data.List.Basic
import Mathlib.Data.List.Induction
import SchemaToJava.Entries
import SchemaToJava.FileTree
import SchemaToJava.Proofs.Outcome

/-!
Trees as a file system keeps them, and where paths lead in them. A tree is only looked at for the
directories on the way, so a path that leads somewhere leads to the same place in every tree with
the same working directory.
-/

namespace SchemaToJava

namespace Path

/-- Where one part of a path leads. -/
def enter (l : Location) (part : String) : Location :=
  if part == ".." then l.dropLast else l ++ [part]

theorem enter_of_ne {part : String} (h : part ≠ "..") (l : Location) :
    enter l part = l ++ [part] := by
  simp [enter, h]

theorem collapse_eq_foldl (parts : List String) : collapse parts = parts.foldl enter [] := rfl

theorem foldl_enter_of_not_mem {parts : List String} (h : ".." ∉ parts) (l : Location) :
    parts.foldl enter l = l ++ parts := by
  induction parts generalizing l with
  | nil => simp
  | cons part rest ih =>
    rw [List.mem_cons, not_or] at h
    rw [List.foldl_cons, enter_of_ne (Ne.symm h.1), ih h.2, List.append_assoc,
      List.singleton_append]

theorem collapse_append (parts more : List String) :
    collapse (parts ++ more) = more.foldl enter (collapse parts) := by
  rw [collapse_eq_foldl, collapse_eq_foldl, List.foldl_append]

theorem collapse_of_not_mem {parts : List String} (h : ".." ∉ parts) : collapse parts = parts := by
  rw [collapse_eq_foldl, foldl_enter_of_not_mem h, List.nil_append]

end Path

namespace FileTree

def fileAt? (t : FileTree) (l : Location) : Option (List UInt8) :=
  match t.get? l with
  | some (.file bytes) => some bytes
  | _ => none

theorem fileAt?_eq_some_iff {t : FileTree} {l : Location} {bytes : List UInt8} :
    t.fileAt? l = some bytes ↔ t.get? l = some (.file bytes) := by
  unfold fileAt?
  split <;> simp_all

/-- What a file system promises of its tree: a place holds one entry, whatever is there is in a
directory, and no entry is called `..`. -/
structure WellFormed (t : FileTree) : Prop where
  nodup : (t.entries.map (·.1)).Nodup
  parent : ∀ {l : Location} {e : Entry}, t.get? l = some e → t.get? l.dropLast = some .directory
  names : ∀ x ∈ t.entries, ".." ∉ x.1
  home : t.get? t.home = some .directory

@[simp] theorem get?_nil (t : FileTree) : t.get? [] = some .directory := rfl

theorem ne_nil_of_get? {t : FileTree} {l : Location} (h : t.get? l ≠ some .directory) :
    l ≠ [] := by
  rintro rfl
  exact h rfl

theorem mem_entries_of_get? {t : FileTree} {l : Location} {e : Entry} (h : t.get? l = some e)
    (hl : l ≠ []) : (l, e) ∈ t.entries := by
  rw [get?, if_neg hl] at h
  exact Entries.mem_of_lookup h

theorem wellFormed_iff {t : FileTree} :
    t.WellFormed ↔ (t.entries.map (·.1)).Nodup ∧
      (∀ x ∈ t.entries, t.get? x.1.dropLast = some .directory) ∧
      (∀ x ∈ t.entries, ".." ∉ x.1) ∧ t.get? t.home = some .directory := by
  constructor
  · intro ht
    refine ⟨ht.nodup, fun x hx => ?_, ht.names, ht.home⟩
    obtain ⟨l, e⟩ := x
    by_cases hl : l = []
    · rw [hl]
      rfl
    · exact ht.parent ((if_neg hl).trans (Entries.lookup_of_mem ht.nodup hx))
  · rintro ⟨hnodup, hparent, hnames, hhome⟩
    refine ⟨hnodup, fun {l e} h => ?_, hnames, hhome⟩
    by_cases hl : l = []
    · rw [hl]
      rfl
    · exact hparent _ (mem_entries_of_get? h hl)

instance (t : FileTree) : Decidable t.WellFormed := decidable_of_iff _ wellFormed_iff.symm

namespace WellFormed

variable {t : FileTree}

theorem get?_of_mem (ht : t.WellFormed) {l : Location} {e : Entry} (h : (l, e) ∈ t.entries)
    (hl : l ≠ []) : t.get? l = some e := by
  rw [get?, if_neg hl]
  exact Entries.lookup_of_mem ht.nodup h

theorem not_mem (ht : t.WellFormed) {l : Location} {e : Entry} (h : t.get? l = some e) :
    ".." ∉ l := by
  by_cases hl : l = []
  · simp [hl]
  · exact ht.names _ (mem_entries_of_get? h hl)

theorem directory_above (ht : t.WellFormed) {l rest : Location} {e : Entry}
    (h : t.get? (l ++ rest) = some e) (hr : rest ≠ []) : t.get? l = some .directory := by
  induction rest using List.reverseRecOn generalizing e with
  | nil => exact absurd rfl hr
  | append_singleton rest name ih =>
    have hp := ht.parent h
    rw [← List.append_assoc, List.dropLast_concat] at hp
    by_cases hrest : rest = []
    · simpa [hrest] using hp
    · exact ih hp hrest

theorem start_directory (ht : t.WellFormed) (p : Path) :
    t.get? (t.start p) = some .directory := by
  unfold start
  split
  · exact ht.home
  · rfl

/-- An entry may be put where no directory is, in a directory. -/
theorem insert (ht : t.WellFormed) {l : Location} {name : String}
    (hl : t.get? l = some .directory) (hname : name ≠ "..")
    (hfree : t.get? (l ++ [name]) ≠ some .directory) (e : Entry) :
    (t.insert (l ++ [name]) e).WellFormed where
  nodup := by
    simp only [FileTree.insert, List.map_cons, List.nodup_cons]
    constructor
    · simp
    · exact ht.nodup.sublist (List.filter_sublist.map _)
  parent := by
    intro m f h
    rw [get?_insert (by simp)] at h ⊢
    have hm : t.get? m.dropLast = some .directory := by
      split at h
      · rename_i heq
        simpa [heq] using hl
      · exact ht.parent h
    rw [if_neg]
    · exact hm
    · intro heq
      exact hfree (heq ▸ hm)
  names := by
    intro x hx
    simp only [FileTree.insert, List.mem_cons, List.mem_filter] at hx
    rcases hx with rfl | ⟨hx, -⟩
    · simp [ht.not_mem hl, Ne.symm hname]
    · exact ht.names x hx
  home := by
    rw [home_insert, get?_insert (by simp), if_neg]
    · exact ht.home
    · intro heq
      exact hfree (heq ▸ ht.home)

end WellFormed

/-- The place a path leads to, whatever stands on the way. -/
def placeOf (t : FileTree) (p : Path) : Location := (p.absolute t.home).parts

theorem placeOf_eq_foldl {t : FileTree} (ht : t.WellFormed) (p : Path) :
    t.placeOf p = p.parts.foldl Path.enter (t.start p) := by
  have hhome : ".." ∉ t.home := ht.not_mem ht.home
  unfold placeOf Path.absolute start
  cases p.anchor with
  | working => exact (Path.collapse_append _ _).trans (by rw [Path.collapse_of_not_mem hhome])
  | top => rfl
  | doubleTop => rfl

theorem step_eq_ok_iff {t : FileTree} {l m : Location} {part : String} :
    t.step l part = .ok m ↔
      t.get? l = some .directory ∧ (part = ".." ∨ part.utf8ByteSize ≤ longestName) ∧
        m = Path.enter l part := by
  unfold step
  split
  · simp_all
  · simp_all
  · rename_i hl
    by_cases hup : part = ".."
    · simp [hup, Path.enter, hl, eq_comm (a := m)]
    · by_cases hlong : longestName < part.utf8ByteSize
      · simp [hup, hlong, Nat.not_le.mpr hlong]
      · simp [hup, hlong, hl, Path.enter, Nat.not_lt.mp hlong, eq_comm (a := m)]

theorem foldlM_step_concat {t : FileTree} {parts : List String} {part : String} {l m : Location} :
    (parts ++ [part]).foldlM t.step l = .ok m ↔
      ∃ k, parts.foldlM t.step l = .ok k ∧ t.step k part = .ok m := by
  rw [List.foldlM_append, Outcome.bind_eq_ok_iff]
  simp only [List.foldlM_cons, List.foldlM_nil, bind_pure]

theorem eq_foldl_of_foldlM_step {t : FileTree} {parts : List String} {l m : Location}
    (h : parts.foldlM t.step l = .ok m) : m = parts.foldl Path.enter l := by
  induction parts using List.reverseRecOn generalizing m with
  | nil => exact (Except.ok.inj h).symm
  | append_singleton parts part ih =>
    obtain ⟨k, hk, hm⟩ := foldlM_step_concat.mp h
    rw [List.foldl_append, ← ih hk]
    exact (step_eq_ok_iff.mp hm).2.2

theorem locate_eq_ok_iff {t : FileTree} {p : Path} {l : Location} :
    t.locate p = .ok l ↔
      p.text.utf8ByteSize ≤ longestPath ∧ p.parts.foldlM t.step (t.start p) = .ok l := by
  unfold locate
  split
  · rename_i h
    simp [Nat.not_le.mpr h]
  · rename_i h
    simp [Nat.not_lt.mp h]

theorem find_eq_ok_iff {t : FileTree} {p : Path} {e : Entry} :
    t.find p = .ok e ↔ ∃ l, t.locate p = .ok l ∧ t.get? l = some e := by
  rw [find, Outcome.bind_eq_ok_iff]
  refine exists_congr fun l => and_congr_right fun _ => ?_
  cases t.get? l with
  | none => simp [throw, throwThe, MonadExceptOf.throw]
  | some e => simp [pure, Except.pure]

theorem eq_placeOf_of_locate {t : FileTree} (ht : t.WellFormed) {p : Path} {l : Location}
    (h : t.locate p = .ok l) : l = t.placeOf p := by
  rw [placeOf_eq_foldl ht]
  exact eq_foldl_of_foldlM_step (locate_eq_ok_iff.mp h).2

theorem exists_concat_of_locate {t : FileTree} (ht : t.WellFormed) {p : Path} {l : Location}
    (h : t.locate p = .ok l) (hfree : t.get? l ≠ some .directory) :
    ∃ k name, l = k ++ [name] ∧ t.get? k = some .directory ∧ name ≠ ".." := by
  have hwalk := (locate_eq_ok_iff.mp h).2
  rcases p.parts.eq_nil_or_concat' with hnil | ⟨parts, part, hparts⟩
  · rw [hnil] at hwalk
    cases hwalk
    exact absurd (ht.start_directory p) hfree
  · rw [hparts] at hwalk
    obtain ⟨k, -, hstep⟩ := foldlM_step_concat.mp hwalk
    obtain ⟨hk, -, rfl⟩ := step_eq_ok_iff.mp hstep
    by_cases hup : part = ".."
    · refine absurd ?_ hfree
      simpa [Path.enter, hup] using ht.parent hk
    · exact ⟨k, part, Path.enter_of_ne hup k, hk, hup⟩

/-- More directories do not change where a path leads. -/
theorem foldlM_step_mono {t u : FileTree}
    (hdir : ∀ l, t.get? l = some .directory → u.get? l = some .directory)
    {parts : List String} {l m : Location} (h : parts.foldlM t.step l = .ok m) :
    parts.foldlM u.step l = .ok m := by
  induction parts using List.reverseRecOn generalizing m with
  | nil => exact h
  | append_singleton parts part ih =>
    obtain ⟨k, hk, hm⟩ := foldlM_step_concat.mp h
    obtain ⟨hkdir, hrest⟩ := step_eq_ok_iff.mp hm
    exact foldlM_step_concat.mpr ⟨k, ih hk, step_eq_ok_iff.mpr ⟨hdir k hkdir, hrest⟩⟩

theorem foldlM_step_congr {t u : FileTree} (ht : t.WellFormed) (hu : u.WellFormed)
    {parts : List String} {l : Location} {e f : Entry} (he : t.get? (l ++ parts) = some e)
    (hf : u.get? (l ++ parts) = some f) : parts.foldlM t.step l = parts.foldlM u.step l := by
  induction parts generalizing l with
  | nil => rfl
  | cons part rest ih =>
    have htl : t.get? l = some .directory := ht.directory_above he (by simp)
    have hul : u.get? l = some .directory := hu.directory_above hf (by simp)
    have hup : part ≠ ".." := by
      rintro rfl
      exact ht.not_mem he (by simp)
    have hstep : t.step l part = u.step l part := by simp [step, htl, hul]
    rw [List.foldlM_cons, List.foldlM_cons, hstep]
    cases hm : u.step l part with
    | error r => rfl
    | ok m =>
      obtain ⟨-, -, rfl⟩ := step_eq_ok_iff.mp hm
      rw [Path.enter_of_ne hup]
      exact ih (by simpa using he) (by simpa using hf)

end FileTree

end SchemaToJava
