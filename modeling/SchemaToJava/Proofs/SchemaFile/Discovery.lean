import SchemaToJava.Proofs.FileTree.Refusal
import SchemaToJava.Proofs.SchemaFile.Listing

/-!
Which schema files are found. The search ends with a fault where its directory is none, and else
with the files that the tree has below it, whatever order the tree lists them in.
-/

namespace SchemaToJava

namespace FileTree

/-- A path leads to an entry at a location. -/
structure LeadsTo (t : FileTree) (p : Path) (l : Location) (e : Entry) : Prop where
  plain : hasNull p = false
  walk : t.locate p = .ok l
  entry : t.get? l = some e

variable {t u : FileTree} {p : Path}

theorem find?_eq_some_iff {e : Entry} : t.find? p = .ok (some e) ↔ ∃ l, t.LeadsTo p l e := by
  have hleads : (∃ l, t.LeadsTo p l e) ↔ hasNull p = false ∧ t.find p = .ok e := by
    rw [find_eq_ok_iff]
    exact ⟨fun ⟨l, h⟩ => ⟨h.plain, l, h.walk, h.entry⟩, fun ⟨h, l, hl, he⟩ => ⟨l, h, hl, he⟩⟩
  rw [hleads]
  unfold find?
  by_cases hnull : hasNull p = true
  · simp [hnull]
  · rw [if_neg hnull, and_iff_right (Bool.eq_false_iff.mpr hnull)]
    split <;> simp_all

theorem find?_eq_none_iff :
    t.find? p = .ok none ↔ ¬ t.Unanswerable p ∧ ¬ ∃ l e, t.LeadsTo p l e := by
  constructor
  · intro h
    refine ⟨fun hlong => ?_, ?_⟩
    · cases h.symm.trans (find?_eq_error_iff.mpr ⟨hlong, rfl⟩)
    · rintro ⟨l, e, hleads⟩
      cases h.symm.trans (find?_eq_some_iff.mpr ⟨l, hleads⟩)
  · rintro ⟨hshort, hnowhere⟩
    cases hfind : t.find? p with
    | error e => exact absurd (find?_eq_error_iff.mp hfind).1 hshort
    | ok found =>
      cases found with
      | none => rfl
      | some e =>
        obtain ⟨l, hleads⟩ := find?_eq_some_iff.mp hfind
        exact absurd ⟨l, e, hleads⟩ hnowhere

theorem get?_eq_none_of_find? (hfind : t.find? p = .ok none) (hnull : hasNull p = false)
    {l : Location} (hl : t.locate p = .ok l) : t.get? l = none :=
  Option.eq_none_iff_forall_ne_some.mpr fun e he =>
    (find?_eq_none_iff.mp hfind).2 ⟨l, e, hnull, hl, he⟩

theorem leadsTo_of_write (ht : t.WellFormed) {bytes : List UInt8} (h : t.write p bytes = .ok u) :
    u.LeadsTo p (t.placeOf p) (.file bytes) := by
  have hwrote := Wrote.of_write ht h
  obtain ⟨hnull, m, hm, -, -⟩ := write_eq_ok_iff.mp h
  refine ⟨hnull, eq_placeOf_of_locate ht hm ▸ hwrote.locate hm, ?_⟩
  rw [get?_of_write ht h, if_pos rfl]

structure SameEntries (t u : FileTree) : Prop where
  home : u.home = t.home
  entries : u.entries.Perm t.entries

namespace SameEntries

theorem get?_eq (h : t.SameEntries u) (ht : t.WellFormed) (l : Location) : u.get? l = t.get? l := by
  rw [get?, get?, Entries.lookup_perm ht.nodup h.entries.symm l]

theorem wellFormed (h : t.SameEntries u) (ht : t.WellFormed) : u.WellFormed := by
  obtain ⟨hnodup, hparent, hnames, hhome⟩ := wellFormed_iff.mp ht
  refine wellFormed_iff.mpr ⟨(h.entries.map _).nodup_iff.mpr hnodup, fun x hx => ?_, fun x hx => ?_,
    ?_⟩
  · rw [h.get?_eq ht]
    exact hparent x (h.entries.mem_iff.mp hx)
  · exact hnames x (h.entries.mem_iff.mp hx)
  · rw [h.get?_eq ht, h.home]
    exact hhome

theorem step_eq (h : t.SameEntries u) (ht : t.WellFormed) : u.step = t.step := by
  funext l part
  rw [step, step, h.get?_eq ht]

theorem locate_eq (h : t.SameEntries u) (ht : t.WellFormed) (p : Path) :
    u.locate p = t.locate p := by
  have hstart : u.start p = t.start p := by rw [start, start, h.home]
  rw [locate, locate, h.step_eq ht, hstart]

theorem find?_eq (h : t.SameEntries u) (ht : t.WellFormed) (p : Path) : u.find? p = t.find? p := by
  have hfind : u.find p = t.find p := by
    unfold find
    rw [h.locate_eq ht]
    simp only [h.get?_eq ht]
  rw [find?, find?, hfind]

end SameEntries

end FileTree

namespace SchemaFile

open Emission

variable {t u : FileTree} {directory : Path} {exclude : List String}

/-- The way down from a location to a file whose name has the ending of schema files and is not
to be left out. -/
structure Wanted (t : FileTree) (l : Location) (exclude : List String) (way : Location) :
    Prop where
  file : ∃ bytes, t.get? (l ++ way) = some (.file bytes)
  name : ∃ above stem, way = above ++ [stem ++ schemaFileEnding] ∧
    stem ++ schemaFileEnding ∉ exclude

def keptWays (t : FileTree) (directory : Path) (exclude : List String) : List Location :=
  (schemaWays t directory).filter fun way => !exclude.contains (way.getLast?.getD "")

theorem hasEnding_iff {ending : String} {way : Location} (hne : way ≠ []) :
    hasEnding ending way = true ↔ ∃ above stem, way = above ++ [stem ++ ending] := by
  obtain ⟨above, last, rfl⟩ := (List.eq_nil_or_concat' way).resolve_left hne
  have hlast : (above ++ [last]).getLast?.getD "" = last := by simp
  rw [hasEnding, hlast, List.isSuffixOf_iff_suffix]
  constructor
  · rintro ⟨stem, hstem⟩
    have hname : last = String.ofList stem ++ ending := by
      rw [← String.toList_inj, String.toList_append, String.toList_ofList, hstem]
    exact ⟨above, String.ofList stem, by rw [hname]⟩
  · rintro ⟨other, stem, hsame⟩
    obtain ⟨-, hname⟩ := List.append_inj' hsame rfl
    rw [List.singleton_inj.mp hname, String.toList_append]
    exact List.suffix_append _ _

theorem mem_keptWays_iff (ht : t.WellFormed) {l : Location} (hl : t.locate directory = .ok l)
    {way : Location} : way ∈ keptWays t directory exclude ↔ Wanted t l exclude way := by
  rw [keptWays, List.mem_filter, schemaWays, (inOrder_perm _).mem_iff, mem_schemaFiles_iff ht hl]
  constructor
  · rintro ⟨⟨hend, hne, hfile⟩, hkept⟩
    obtain ⟨above, stem, rfl⟩ := (hasEnding_iff hne).mp hend
    obtain ⟨bytes, hbytes⟩ := Option.isSome_iff_exists.mp hfile
    refine ⟨⟨bytes, FileTree.fileAt?_eq_some_iff.mp hbytes⟩, above, stem, rfl, ?_⟩
    simpa using hkept
  · rintro ⟨⟨bytes, hbytes⟩, above, stem, rfl, hkept⟩
    have hne : above ++ [stem ++ schemaFileEnding] ≠ [] := by simp
    refine ⟨⟨(hasEnding_iff hne).mpr ⟨above, stem, rfl⟩, hne, ?_⟩, by simpa using hkept⟩
    exact Option.isSome_iff_exists.mpr ⟨bytes, FileTree.fileAt?_eq_some_iff.mpr hbytes⟩

/-- Files are found in one order, and none of them twice. -/
theorem pairwise_keptWays (ht : t.WellFormed) (hslash : t.SlashFree) :
    (keptWays t directory exclude).Pairwise fun a b => wayText a < wayText b := by
  have hperm := inOrder_perm ((t.filesBelow directory).filter (hasEnding schemaFileEnding))
  have hnodup : (schemaWays t directory).Nodup :=
    hperm.nodup_iff.mpr ((nodup_filesBelow ht directory).filter _)
  have hplain : ∀ way ∈ schemaWays t directory, way ≠ [] ∧ ∀ name ∈ way, '/' ∉ name.toList :=
    fun way hway =>
      slash_not_mem_of_filesBelow ht hslash (List.mem_of_mem_filter (hperm.mem_iff.mp hway))
  refine .filter _ (((pairwise_inOrder _).and hnodup).imp_of_mem fun {a b} ha hb ⟨hle, hne⟩ => ?_)
  refine String.not_le.mp fun hge => hne ?_
  exact wayText_injective (hplain a ha).1 (hplain b hb).1 (hplain a ha).2 (hplain b hb).2
    (String.le_antisymm hle hge)

theorem schemaWays_perm (hsame : t.SameEntries u) (ht : t.WellFormed) (hslash : t.SlashFree)
    {l : Location} (hl : t.locate directory = .ok l) :
    schemaWays u directory = schemaWays t directory := by
  refine schemaWays_congr ht (hsame.wellFormed ht) hslash hl ((hsame.locate_eq ht _).trans hl)
    fun way _ _ => ?_
  rw [FileTree.fileAt?, FileTree.fileAt?, hsame.get?_eq ht]

theorem Discovers.unique {o o' : Except Fault (List Path)} (h : Discovers t directory exclude o)
    (h' : Discovers t directory exclude o') : o = o' := by
  cases h <;> cases h' <;> simp_all

theorem discover_eq_iff {o : Except Fault (List Path)} :
    ((discover directory exclude).on t).outcome = o ↔ Discovers t directory exclude o :=
  ⟨fun h => h ▸ discovers t directory exclude, (discovers t directory exclude).unique⟩

theorem discover_eq_missing_iff :
    ((discover directory exclude).on t).outcome = .error (.schemaDirectoryMissing directory) ↔
      ¬ t.Unanswerable directory ∧ ¬ ∃ l e, t.LeadsTo directory l e := by
  rw [discover_eq_iff, ← FileTree.find?_eq_none_iff]
  refine ⟨fun h => ?_, .missing⟩
  cases h
  assumption

theorem discover_eq_notDirectory_iff :
    ((discover directory exclude).on t).outcome = .error (.schemaPathNotDirectory directory) ↔
      ∃ l bytes, t.LeadsTo directory l (.file bytes) := by
  rw [discover_eq_iff]
  constructor
  · intro h
    cases h with
    | notDirectory hfind =>
      obtain ⟨l, hleads⟩ := FileTree.find?_eq_some_iff.mp hfind
      exact ⟨l, _, hleads⟩
  · rintro ⟨l, bytes, hleads⟩
    exact .notDirectory (FileTree.find?_eq_some_iff.mpr ⟨l, hleads⟩)

theorem discover_perm (hsame : t.SameEntries u) (ht : t.WellFormed) (hslash : t.SlashFree) :
    ((discover directory exclude).on u).outcome = ((discover directory exclude).on t).outcome := by
  have hfind := hsame.find?_eq ht directory
  rw [discover_eq_iff]
  generalize ho : ((discover directory exclude).on t).outcome = o
  rw [discover_eq_iff] at ho
  cases ho with
  | unknown h => exact .unknown (hfind.trans h)
  | missing h => exact .missing (hfind.trans h)
  | notDirectory h => exact .notDirectory (hfind.trans h)
  | found h =>
    obtain ⟨l, hleads⟩ := FileTree.find?_eq_some_iff.mp h
    rw [← schemaWays_perm hsame ht hslash hleads.walk]
    exact .found (hfind.trans h)

/-- A path that leads nowhere or to a file is reported, unless it is too long to be looked up. Below
a directory the files with the ending of schema files are found that are not to be left out, each
once and in the order of their texts. In which order the tree has its entries does not matter. -/
theorem discover_exact (ht : t.WellFormed) (hslash : t.SlashFree) (directory : Path)
    (exclude : List String) :
    (((discover directory exclude).on t).outcome = .error (.schemaDirectoryMissing directory) ↔
      ¬ t.Unanswerable directory ∧ ¬ ∃ l e, t.LeadsTo directory l e) ∧
    (((discover directory exclude).on t).outcome = .error (.schemaPathNotDirectory directory) ↔
      ∃ l bytes, t.LeadsTo directory l (.file bytes)) ∧
    (t.Unanswerable directory → ((discover directory exclude).on t).outcome =
      .error (.file (.refused .nameTooLong directory))) ∧
    (∀ l, t.LeadsTo directory l .directory → ∃ ways : List Location,
      ((discover directory exclude).on t).outcome = .ok (ways.map (below directory)) ∧
      (ways.Pairwise fun a b => wayText a < wayText b) ∧
      ∀ way, way ∈ ways ↔ Wanted t l exclude way) ∧
    ∀ u, t.SameEntries u →
      ((discover directory exclude).on u).outcome =
        ((discover directory exclude).on t).outcome := by
  refine ⟨discover_eq_missing_iff, discover_eq_notDirectory_iff, fun hlong => ?_,
    fun l hleads => ?_, fun u hsame => discover_perm hsame ht hslash⟩
  · exact discover_eq_iff.mpr (.unknown (FileTree.find?_eq_error_iff.mpr ⟨hlong, rfl⟩))
  · have hfind := FileTree.find?_eq_some_iff.mpr ⟨l, hleads⟩
    refine ⟨keptWays t directory exclude, discover_eq_iff.mpr (.found hfind), ?_, fun way => ?_⟩
    · exact pairwise_keptWays ht hslash
    · exact mem_keptWays_iff ht hleads.walk

def nestedTree : FileTree :=
  ⟨[], [(["s"], .directory), (["s", "d.graphqls"], .directory),
    (["s", "d.graphqls", "codegen.graphqls"], .file []),
    (["s", "d.graphqls", "c.graphqls"], .file []), (["s", "a"], .directory),
    (["s", "a", "b.graphqls"], .file []), (["s", "a.graphqls"], .file []),
    (["s", "a-b.graphqls"], .file []), (["s", "notes.txt"], .file [])]⟩

def nestedWays : List Location :=
  [["a-b.graphqls"], ["a.graphqls"], ["a", "b.graphqls"], ["d.graphqls", "c.graphqls"]]

def nestedDirectory : Path := ⟨.working, ["s"]⟩

theorem keptWays_nestedTree :
    keptWays nestedTree nestedDirectory ["codegen.graphqls"] = nestedWays := by
  have hperm : (keptWays nestedTree nestedDirectory ["codegen.graphqls"]).Perm nestedWays :=
    ((inOrder_perm _).filter _).trans (by decide)
  have ht : nestedTree.WellFormed := by decide
  exact hperm.eq_of_pairwise (fun _ _ _ _ hlt hgt => absurd hgt (String.lt_asymm hlt))
    (pairwise_keptWays ht (by decide)) (by decide)

theorem discover_exact_nestedTree :
    nestedTree.WellFormed ∧ nestedTree.SlashFree ∧
    (∀ entries, entries.Perm nestedTree.entries →
      ((discover nestedDirectory ["codegen.graphqls"]).on ⟨[], entries⟩).outcome =
        .ok (nestedWays.map (below nestedDirectory))) ∧
    (nestedWays.Pairwise fun a b => wayText a < wayText b) ∧
    ∀ way, way ∈ nestedWays ↔ Wanted nestedTree ["s"] ["codegen.graphqls"] way := by
  have ht : nestedTree.WellFormed := by decide
  have hslash : nestedTree.SlashFree := by decide
  have hleads : nestedTree.LeadsTo nestedDirectory ["s"] .directory :=
    ⟨by simp [FileTree.hasNull, nestedDirectory], by decide, rfl⟩
  have hfound : ((discover nestedDirectory ["codegen.graphqls"]).on nestedTree).outcome =
      .ok (nestedWays.map (below nestedDirectory)) := by
    rw [← keptWays_nestedTree]
    exact discover_eq_iff.mpr (.found (FileTree.find?_eq_some_iff.mpr ⟨_, hleads⟩))
  obtain ⟨-, -, -, hdirectory, horder⟩ :=
    discover_exact ht hslash nestedDirectory ["codegen.graphqls"]
  obtain ⟨ways, hways, hsorted, hwanted⟩ := hdirectory _ hleads
  have hsame : ways = nestedWays :=
    List.map_injective_iff.mpr (below_injective nestedDirectory)
      (Except.ok.inj (hways.symm.trans hfound))
  subst hsame
  exact ⟨ht, hslash, fun entries h => (horder ⟨[], entries⟩ ⟨rfl, h⟩).trans hfound, hsorted,
    hwanted⟩

def longDirectory : Path := ⟨.working, [String.ofList (List.replicate 256 'a')]⟩

/-- A directory with a name that is too long leads nowhere, which is not reported as such. -/
theorem discover_longDirectory :
    (FileTree.empty []).WellFormed ∧ (FileTree.empty []).SlashFree ∧
    (¬ ∃ l e, (FileTree.empty []).LeadsTo longDirectory l e) ∧
    ¬ ∃ f, ((discover longDirectory []).on (.empty [])).outcome = .error f ∧
      IsDirectoryFault f := by
  have hfind : (FileTree.empty []).find? longDirectory =
      .error (.refused .nameTooLong longDirectory) := by
    have hplain (n : Nat) :
        FileTree.hasNull ⟨.working, [String.ofList (List.replicate n 'a')]⟩ = false := by
      simp [FileTree.hasNull]
    refine FileTree.find?_of_longName rfl (hplain 256) ?_
    rw [FileTree.utf8ByteSize_replicate]
    decide
  refine ⟨by decide, by decide, ?_, ?_⟩
  · rintro ⟨l, e, hleads⟩
    cases hfind.symm.trans (FileTree.find?_eq_some_iff.mpr ⟨l, hleads⟩)
  · rintro ⟨f, hf, hfault⟩
    cases hf.symm.trans (discover_eq_iff.mpr (.unknown hfind))
    cases hfault

end SchemaFile

end SchemaToJava
