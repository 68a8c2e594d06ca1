import Mathlib.Data.List.Basic
import SchemaToJava.Proofs.SchemaFile

/-!
What is found depends on the files there are, and not on how directories list them. Names without
slashes tell ways down apart by their texts, so files are put in one order only.
-/

namespace SchemaToJava

/-- No name in the tree holds a slash, as in any file system, where slashes end names. -/
def FileTree.SlashFree (t : FileTree) : Prop :=
  ∀ x ∈ t.entries, ∀ name ∈ x.1, '/' ∉ name.toList

instance (t : FileTree) : Decidable t.SlashFree := by
  unfold FileTree.SlashFree
  infer_instance

theorem FileTree.SlashFree.insert {t : FileTree} (h : t.SlashFree) {l : Location} {name : String}
    (hl : t.get? l = some .directory) (hname : '/' ∉ name.toList) (e : Entry) :
    (t.insert (l ++ [name]) e).SlashFree := by
  intro x hx part hpart
  simp only [FileTree.insert, List.mem_cons, List.mem_filter] at hx
  rcases hx with rfl | ⟨hx, -⟩
  · rcases List.mem_append.mp hpart with hpart | hpart
    · have hne : l ≠ [] := List.ne_nil_of_mem hpart
      exact h _ (mem_entries_of_get? hl hne) part hpart
    · rwa [List.mem_singleton.mp hpart]
  · exact h x hx part hpart

namespace SchemaFile

theorem splitOn_wayText {way : Location} (hne : way ≠ []) (h : ∀ name ∈ way, '/' ∉ name.toList) :
    (wayText way).toList.splitOn '/' = way.map String.toList := by
  rw [wayText, String.toList_intercalate]
  refine List.splitOn_intercalate '/' (fun cs hcs => ?_) (by simpa using hne)
  obtain ⟨name, hname, rfl⟩ := List.mem_map.mp hcs
  exact h name hname

theorem wayText_injective {way other : Location} (hway : way ≠ []) (hother : other ≠ [])
    (hslash : ∀ name ∈ way, '/' ∉ name.toList) (hslash' : ∀ name ∈ other, '/' ∉ name.toList)
    (h : wayText way = wayText other) : way = other := by
  have hsplit := splitOn_wayText hway hslash
  rw [h, splitOn_wayText hother hslash'] at hsplit
  exact (List.map_injective_iff.mpr fun _ _ => String.toList_inj.mp) hsplit.symm

theorem inOrder_perm (ways : List Location) : (inOrder ways).Perm ways := List.mergeSort_perm _ _

theorem pairwise_inOrder (ways : List Location) :
    (inOrder ways).Pairwise fun a b => wayText a ≤ wayText b := by
  have htrans : ∀ a b c : Location, decide (wayText a ≤ wayText b) = true →
      decide (wayText b ≤ wayText c) = true → decide (wayText a ≤ wayText c) = true := by
    intro a b c hab hbc
    exact decide_eq_true (String.le_trans (of_decide_eq_true hab) (of_decide_eq_true hbc))
  have htotal : ∀ a b : Location,
      (decide (wayText a ≤ wayText b) || decide (wayText b ≤ wayText a)) = true := by
    intro a b
    rw [Bool.or_eq_true, decide_eq_true_eq, decide_eq_true_eq]
    exact String.le_total _ _
  exact (List.pairwise_mergeSort htrans htotal ways).imp of_decide_eq_true

theorem inOrder_congr {ways others : List Location} (hperm : ways.Perm others)
    (hinj : ∀ a ∈ ways, ∀ b ∈ ways, wayText a = wayText b → a = b) :
    inOrder ways = inOrder others := by
  have hsorted := inOrder_perm ways
  have hsorted' := inOrder_perm others
  refine List.Perm.eq_of_pairwise (fun a b ha hb hab hba => ?_) (pairwise_inOrder ways)
    (pairwise_inOrder others) (hsorted.trans (hperm.trans hsorted'.symm))
  refine hinj a (hsorted.mem_iff.mp ha) b (hperm.mem_iff.mpr (hsorted'.mem_iff.mp hb)) ?_
  exact String.le_antisymm hab hba

theorem mem_filesBelow_iff {t : FileTree} (ht : t.WellFormed) {p : Path} {way : Location} :
    way ∈ t.filesBelow p ↔
      ∃ l bytes, t.locate p = .ok l ∧ way ≠ [] ∧ t.get? (l ++ way) = some (.file bytes) := by
  refine ⟨mem_filesBelow ht, ?_⟩
  rintro ⟨l, bytes, hl, hne, hfile⟩
  have hentry := FileTree.mem_entries_of_get? hfile (by simp [hne])
  unfold FileTree.filesBelow
  rw [hl]
  refine List.mem_filterMap.mpr ⟨(way, .file bytes), List.mem_filterMap.mpr ⟨_, hentry, ?_⟩, rfl⟩
  simp [hne]

theorem mem_schemaFiles_iff {t : FileTree} (ht : t.WellFormed) {directory : Path} {l : Location}
    (hl : t.locate directory = .ok l) {way : Location} :
    way ∈ (t.filesBelow directory).filter (hasEnding Emission.schemaFileEnding) ↔
      hasEnding Emission.schemaFileEnding way = true ∧ way ≠ [] ∧
        (t.fileAt? (l ++ way)).isSome = true := by
  simp only [List.mem_filter, mem_filesBelow_iff ht, hl, Except.ok.injEq,
    Option.isSome_iff_exists, FileTree.fileAt?_eq_some_iff]
  constructor
  · rintro ⟨⟨_, bytes, rfl, hne, hfile⟩, hend⟩
    exact ⟨hend, hne, bytes, hfile⟩
  · rintro ⟨hend, hne, bytes, hfile⟩
    exact ⟨⟨l, bytes, rfl, hne, hfile⟩, hend⟩

theorem slash_not_mem_of_filesBelow {t : FileTree} (ht : t.WellFormed) (hslash : t.SlashFree)
    {p : Path} {way : Location} (h : way ∈ t.filesBelow p) :
    way ≠ [] ∧ ∀ name ∈ way, '/' ∉ name.toList := by
  obtain ⟨l, bytes, -, hne, hfile⟩ := mem_filesBelow ht h
  have hentry := FileTree.mem_entries_of_get? hfile (by simp [hne])
  exact ⟨hne, fun name hname => hslash _ hentry name (List.mem_append_right l hname)⟩

theorem schemaWays_congr {t u : FileTree} (ht : t.WellFormed) (hu : u.WellFormed)
    (hslash : t.SlashFree) {directory : Path} {l : Location} (hl : t.locate directory = .ok l)
    (hlu : u.locate directory = .ok l)
    (h : ∀ way, way ≠ [] → hasEnding Emission.schemaFileEnding way = true →
      u.fileAt? (l ++ way) = t.fileAt? (l ++ way)) :
    schemaWays u directory = schemaWays t directory := by
  refine (inOrder_congr ?_ fun a ha b hb => ?_).symm
  · refine (List.perm_ext_iff_of_nodup ((nodup_filesBelow ht _).filter _)
      ((nodup_filesBelow hu _).filter _)).mpr fun way => ?_
    rw [mem_schemaFiles_iff ht hl, mem_schemaFiles_iff hu hlu]
    refine and_congr_right fun hend => and_congr_right fun hne => ?_
    rw [h way hne hend]
  · obtain ⟨hne, hplain⟩ := slash_not_mem_of_filesBelow ht hslash (List.mem_of_mem_filter ha)
    obtain ⟨hne', hplain'⟩ := slash_not_mem_of_filesBelow ht hslash (List.mem_of_mem_filter hb)
    exact wayText_injective hne hne' hplain hplain'

variable {t u : FileTree} {directory : Path} {exclude : List String} {files : List Path}

end SchemaFile

end SchemaToJava
