import Mathlib.Data.List.Nodup
import SchemaToJava.Proofs.Run
import SchemaToJava.SchemaFile

/-!
What finding and loading schema files depends on. A schema file is a regular file below the schema
directory, and its document stays the same as long as nothing is written to files with its ending.
-/

namespace SchemaToJava.SchemaFile

open GraphQL

def document (t : FileTree) (f : Path) : Except Fault Document := do
  (Document.parse (← textOf t f)).mapError .document

theorem document_eq_ok {t : FileTree} {f : Path} {text : List Char} {doc : Document}
    (htext : textOf t f = .ok text) (hparse : Document.parse text = .ok doc) :
    document t f = .ok doc := by
  rw [document, htext]
  exact congrArg (Except.mapError Fault.document) hparse

theorem load_ends (t : FileTree) (f : Path) : (load f).Ends t (document t f) [] t := by
  unfold load document
  refine (Run.Ends.inspect _ t).bind ?_
  cases textOf t f with
  | error e => exact (Run.Ends.orFault_error id e t).bind_error _
  | ok text =>
    refine (Run.Ends.orFault_ok id text t).bind ?_
    change Run.Ends _ t ((Document.parse text).mapError .document) [] t
    cases Document.parse text with
    | error e => exact (Run.Ends.orFault_error .document e t).bind_error _
    | ok doc =>
      refine (Run.Ends.orFault_ok .document doc t).bind ?_
      exact (Run.Ends.detail rfl t).bind (Run.Ends.pure doc t)

/-- The path of a regular file with the ending of schema files, below a directory. -/
inductive IsSchemaFile (t : FileTree) : Path → Prop where
  | intro {directory : Path} {l way : Location} {bytes : List UInt8}
    (start : t.locate directory = .ok l) (name : way ≠ [])
    (file : t.get? (l ++ way) = some (.file bytes))
    (ending : hasEnding Emission.schemaFileEnding way = true) :
    IsSchemaFile t (below directory way)

theorem mem_filesBelow {t : FileTree} (ht : t.WellFormed) {p : Path} {way : Location}
    (h : way ∈ t.filesBelow p) :
    ∃ l bytes, t.locate p = .ok l ∧ way ≠ [] ∧ t.get? (l ++ way) = some (.file bytes) := by
  unfold FileTree.filesBelow at h
  split at h
  · cases h
  · rename_i l hl
    simp only [FileTree.below, List.mem_filterMap] at h
    obtain ⟨⟨m, e⟩, ⟨⟨k, e'⟩, hk, hm⟩, hway⟩ := h
    split at hm
    · rename_i hcond
      simp only [Bool.and_eq_true, List.isPrefixOf_iff_prefix, decide_eq_true_eq] at hcond
      obtain ⟨⟨rest, rfl⟩, hlen⟩ := hcond
      simp only [Option.some.injEq, Prod.mk.injEq, List.drop_left] at hm
      obtain ⟨rfl, rfl⟩ := hm
      cases e' with
      | directory => simp at hway
      | file bytes =>
        simp only [if_true, Option.some.injEq] at hway
        subst hway
        have hne : rest ≠ [] := by
          rintro rfl
          simp at hlen
        exact ⟨l, bytes, hl, hne, ht.get?_of_mem hk (by simp [hne])⟩
    · cases hm

theorem sublist_filesBelow (t : FileTree) (l : Location) :
    (((t.below l).filterMap fun (m, e) =>
      if e matches .file _ then some m else none).map (l ++ ·)).Sublist (t.entries.map (·.1)) := by
  unfold FileTree.below
  induction t.entries with
  | nil => simp
  | cons x xs ih =>
    obtain ⟨m, e⟩ := x
    rw [List.filterMap_cons, List.map_cons]
    by_cases hcond : (l.isPrefixOf m && decide (l.length < m.length)) = true
    · simp only [hcond, if_true]
      rw [Bool.and_eq_true, List.isPrefixOf_iff_prefix] at hcond
      obtain ⟨⟨rest, rfl⟩, -⟩ := hcond
      cases e with
      | directory => exact List.Sublist.cons _ (by simpa using ih)
      | file bytes => simpa using ih
    · simp only [hcond]
      exact List.Sublist.cons _ ih

theorem nodup_filesBelow {t : FileTree} (ht : t.WellFormed) (p : Path) :
    (t.filesBelow p).Nodup := by
  unfold FileTree.filesBelow
  split
  · exact List.nodup_nil
  · rename_i l hl
    exact List.Nodup.of_map _ (ht.nodup.sublist (sublist_filesBelow t l))

def schemaWays (t : FileTree) (directory : Path) : List Location :=
  inOrder ((t.filesBelow directory).filter (hasEnding Emission.schemaFileEnding))

theorem notes_ends (directory : Path) (ways : List Location) (t : FileTree) :
    Run.Ends (forIn ways PUnit.unit fun way _ => do
      Run.note (.excluding (below directory way))
      pure (ForInStep.yield PUnit.unit)) t (.ok PUnit.unit) [] t := by
  induction ways with
  | nil => exact Run.Ends.pure _ t
  | cons way ways ih =>
    rw [List.forIn_cons]
    have hnote : Run.Ends (do
        Run.note (.excluding (below directory way))
        pure (ForInStep.yield PUnit.unit)) t (.ok (ForInStep.yield PUnit.unit)) [] t :=
      (Run.Ends.detail rfl t).bind (Run.Ends.pure _ t)
    exact Run.Ends.bind hnote ih

/-- How the search for schema files ends, by what its directory is. -/
inductive Discovers (t : FileTree) (directory : Path) (exclude : List String) :
    Except Fault (List Path) → Prop where
  | unknown {e : FileError} (h : t.find? directory = .error e) :
    Discovers t directory exclude (.error (.file e))
  | missing (h : t.find? directory = .ok none) :
    Discovers t directory exclude (.error (.schemaDirectoryMissing directory))
  | notDirectory {bytes : List UInt8} (h : t.find? directory = .ok (some (.file bytes))) :
    Discovers t directory exclude (.error (.schemaPathNotDirectory directory))
  | found (h : t.find? directory = .ok (some .directory)) :
    Discovers t directory exclude (.ok (((schemaWays t directory).filter
      fun way => !exclude.contains (way.getLast?.getD "")).map (below directory)))

theorem discover_ends_found {t : FileTree} {directory : Path}
    (h : t.find? directory = .ok (some .directory)) (exclude : List String) :
    (discover directory exclude).Ends t (.ok (((schemaWays t directory).filter
      fun way => !exclude.contains (way.getLast?.getD "")).map (below directory))) [] t := by
  unfold discover
  refine (Run.Ends.inspect (fun t : FileTree => t.find? directory) t).bind ?_
  rw [h]
  exact (Run.Ends.orFault_ok .file (some Entry.directory) t).bind ((Run.Ends.inspect _ t).bind
    ((notes_ends directory _ t).bind (Run.Ends.pure _ t)))

theorem exists_discover_ends (t : FileTree) (directory : Path) (exclude : List String) :
    ∃ o, (discover directory exclude).Ends t o [] t ∧ Discovers t directory exclude o := by
  unfold discover
  have hlook := Run.Ends.inspect (fun t : FileTree => t.find? directory) t
  cases hfind : t.find? directory with
  | error e =>
    refine ⟨.error (.file e), hlook.bind ?_, .unknown hfind⟩
    rw [hfind]
    exact (Run.Ends.orFault_error .file e t).bind_error _
  | ok found =>
    have hfound := Run.Ends.orFault_ok .file found t
    cases found with
    | none =>
      refine ⟨.error (.schemaDirectoryMissing directory), hlook.bind ?_, .missing hfind⟩
      rw [hfind]
      exact hfound.bind (Run.Ends.fail _ t)
    | some entry =>
      cases entry with
      | file bytes =>
        refine ⟨.error (.schemaPathNotDirectory directory), hlook.bind ?_, .notDirectory hfind⟩
        rw [hfind]
        exact hfound.bind (Run.Ends.fail _ t)
      | directory => exact ⟨_, discover_ends_found hfind exclude, .found hfind⟩

theorem discover_ends (t : FileTree) (directory : Path) (exclude : List String) :
    (discover directory exclude).Ends t ((discover directory exclude).on t).outcome [] t := by
  obtain ⟨o, h, -⟩ := exists_discover_ends t directory exclude
  rwa [h.outcome]

theorem discovers (t : FileTree) (directory : Path) (exclude : List String) :
    Discovers t directory exclude ((discover directory exclude).on t).outcome := by
  obtain ⟨o, h, hfound⟩ := exists_discover_ends t directory exclude
  rwa [h.outcome]

theorem discover_eq_ok {t : FileTree} {directory : Path} {exclude : List String}
    {files : List Path} (h : ((discover directory exclude).on t).outcome = .ok files) :
    files = ((schemaWays t directory).filter
      fun way => !exclude.contains (way.getLast?.getD "")).map (below directory) := by
  have hfound := discovers t directory exclude
  rw [h] at hfound
  cases hfound
  rfl

theorem below_injective (directory : Path) : Function.Injective (below directory) := by
  intro way other h
  exact List.append_cancel_left (congrArg Path.parts h)

theorem nodup_discover {t : FileTree} (ht : t.WellFormed) {directory : Path}
    {exclude : List String} {files : List Path}
    (h : ((discover directory exclude).on t).outcome = .ok files) : files.Nodup := by
  rw [discover_eq_ok h]
  refine List.Nodup.map (below_injective directory) (List.Nodup.filter _ ?_)
  exact (List.mergeSort_perm _ _).nodup_iff.mpr ((nodup_filesBelow ht directory).filter _)

theorem isSchemaFile_of_discover {t : FileTree} (ht : t.WellFormed) {directory : Path}
    {exclude : List String} {files : List Path}
    (h : ((discover directory exclude).on t).outcome = .ok files) {f : Path} (hf : f ∈ files) :
    IsSchemaFile t f := by
  rw [discover_eq_ok h] at hf
  obtain ⟨way, hway, rfl⟩ := List.mem_map.mp hf
  have hmem := (List.mergeSort_perm _ _).mem_iff.mp (List.mem_filter.mp hway).1
  obtain ⟨hbelow, hend⟩ := List.mem_filter.mp hmem
  obtain ⟨l, bytes, hl, hne, hfile⟩ := mem_filesBelow ht hbelow
  exact .intro hl hne hfile hend

theorem hasEnding_append {ending : String} {way : Location} (hne : way ≠ []) (l : Location) :
    hasEnding ending (l ++ way) = hasEnding ending way := by
  rw [hasEnding, hasEnding, List.getLast?_append_of_ne_nil _ hne]

theorem locate_top (t : FileTree) : t.locate ⟨.top, []⟩ = .ok [] :=
  FileTree.locate_eq_ok_iff.mpr ⟨by decide, rfl⟩

section Stable

variable {t u : FileTree} {files : List (Location × List UInt8)} {directory f : Path}
  {l way : Location} {bytes : List UInt8}

theorem placeOf_below (ht : t.WellFormed) (hl : t.locate directory = .ok l)
    (hfile : t.get? (l ++ way) = some (.file bytes)) :
    t.placeOf (below directory way) = l ++ way := by
  have hway : ".." ∉ way := fun hmem => ht.not_mem hfile (List.mem_append_right _ hmem)
  have hstart := FileTree.eq_foldl_of_foldlM_step (FileTree.locate_eq_ok_iff.mp hl).2
  rw [FileTree.placeOf_eq_foldl ht, below, List.foldl_append, Path.foldl_enter_of_not_mem hway]
  exact congrArg (· ++ way) hstart.symm

theorem IsSchemaFile.ending (ht : t.WellFormed) (hf : IsSchemaFile t f) :
    hasEnding Emission.schemaFileEnding (t.placeOf f) = true := by
  obtain ⟨hl, hne, hfile, hend⟩ := hf
  rwa [placeOf_below ht hl hfile, hasEnding_append hne]

theorem IsSchemaFile.isDirectory (ht : t.WellFormed) (hf : IsSchemaFile t f) :
    t.isDirectory f = false := by
  obtain ⟨hl, -, hfile, -⟩ := hf
  rw [← placeOf_below ht hl hfile] at hfile
  refine Bool.eq_false_iff.mpr fun h => ?_
  obtain ⟨-, m, hm, hdir⟩ := FileTree.isDirectory_iff.mp h
  rw [← FileTree.eq_placeOf_of_locate ht hm, hdir] at hfile
  cases hfile

theorem IsSchemaFile.find_eq (ht : t.WellFormed) (hf : IsSchemaFile t f) (h : t.Wrote files u)
    (hfree : t.placeOf f ∉ files.map (·.1)) : u.find f = t.find f := by
  obtain ⟨hl, -, hfile, -⟩ := hf
  rw [placeOf_below ht hl hfile] at hfree
  exact h.find_eq ht hl hfile hfree

theorem IsSchemaFile.textOf_eq (ht : t.WellFormed) (hf : IsSchemaFile t f) (h : t.Wrote files u)
    (hfree : t.placeOf f ∉ files.map (·.1)) : textOf u f = textOf t f := by
  have hdir := hf.isDirectory ht
  have hup : u.isDirectory f = false :=
    (FileTree.isDirectory_congr (hf.find_eq ht h hfree)).trans hdir
  have hread : u.read (f.resolved t.home) = t.read (f.resolved t.home) := by
    obtain ⟨hl, -, hfile, -⟩ := hf
    have hplace := placeOf_below ht hl hfile
    rw [hplace] at hfree
    unfold Path.resolved
    rw [← FileTree.placeOf, hplace]
    exact FileTree.read_congr (h.find_eq ht (locate_top t) hfile hfree)
  simp only [textOf, hup, hdir, h.home, hread, Bool.false_eq_true, if_false]

theorem IsSchemaFile.document_eq (ht : t.WellFormed) (hf : IsSchemaFile t f)
    (h : t.Wrote files u) (hfree : t.placeOf f ∉ files.map (·.1)) :
    document u f = document t f := by
  unfold document
  rw [hf.textOf_eq ht h hfree]

end Stable

/-- The faults of a schema directory that is none. -/
inductive IsDirectoryFault : Fault → Prop where
  | missing (directory : Path) : IsDirectoryFault (.schemaDirectoryMissing directory)
  | notDirectory (directory : Path) : IsDirectoryFault (.schemaPathNotDirectory directory)

theorem not_isDirectoryFault_fileFault {refused : FileError → Fault}
    (h : ∀ e, ¬ IsDirectoryFault (refused e)) (e : FileError) :
    ¬ IsDirectoryFault (Run.fileFault refused e) := by
  unfold Run.fileFault
  split
  · rintro ⟨⟩
  · exact h e

end SchemaToJava.SchemaFile
