import SchemaToJava.Proofs.FileTree.Within
import SchemaToJava.Proofs.Generation.Files

/-!
Plans for which there is room. If the files lie within a larger tree that has a file for everything
that is planned, nothing is refused, and what is written lies within the larger tree as well.
-/

namespace SchemaToJava.Generation

open Java SchemaFile

/-- There is a file where each of the artifacts goes. -/
def Ready (t : FileTree) (out : Path) (as : List Artifact) : Prop :=
  ∀ a ∈ as, ∃ bytes, t.read (a.path out) = .ok bytes

theorem Stored.ready {t u : FileTree} {out : Path} {as : List Artifact} (h : Stored t out as u) :
    Ready u out as := by
  intro a ha
  obtain ⟨hnull, hplace⟩ := h.reached a ha
  cases hlookup : (as.map fun a =>
      (t.placeOf (a.path out), Text.Utf8.encode a.render)).reverse.lookup
        (t.placeOf (a.path out)) with
  | none =>
    rw [List.lookup_eq_none_iff] at hlookup
    have hne := hlookup _ (List.mem_reverse.mpr (List.mem_map.mpr ⟨a, ha, rfl⟩))
    simp at hne
  | some bytes => exact ⟨bytes, h.wrote.read hnull hplace hlookup⟩

section Writing

variable {t v : FileTree} {out : Path}

theorem writeArtifact_within (h : t.Within v) (ht : t.WellFormed) (hv : v.WellFormed)
    {a : Artifact} {old : List UInt8} (hready : v.read (a.path out) = .ok old) :
    ∃ u, (writeArtifact out a).Ends t (.ok (a.path out)) [] u ∧ Stored t out [a] u ∧
      u.Within v := by
  obtain ⟨_, u, hdirs, hwrite, hu⟩ := h.exists_write ht hv hready (Text.Utf8.encode a.render)
  have hends := writeArtifact_ends_ok out a hdirs hwrite
  refine ⟨u, hends, ?_, hu⟩
  rcases writeArtifact_ends ht out a with ⟨w, hw, hstored⟩ | ⟨e, w, hw, -⟩
  · rwa [← hends.tree, hw.tree]
  · have hsame := hends.outcome.symm.trans hw.outcome
    cases hsame

theorem writeArtifacts_within (h : t.Within v) (ht : t.WellFormed) (hv : v.WellFormed)
    {as : List Artifact} (hready : Ready v out as) :
    ∃ u, (as.mapM (writeArtifact out)).Ends t (.ok (as.map (·.path out))) [] u ∧
      Stored t out as u ∧ u.Within v := by
  induction as generalizing t with
  | nil => exact ⟨t, Run.Ends.pure [] t, .of_wrote (.refl ht), h⟩
  | cons a rest ih =>
    obtain ⟨old, hold⟩ := hready a List.mem_cons_self
    obtain ⟨u, ha, hstored, hu⟩ := writeArtifact_within h ht hv hold
    obtain ⟨w, hrest, hmore, hw⟩ := ih hu hstored.wrote.wellFormed fun b hb =>
      hready b (List.mem_cons_of_mem a hb)
    rw [List.mapM_cons]
    exact ⟨w, ha.bind (hrest.bind (Run.Ends.pure _ w)), hstored.trans hmore, hw⟩

theorem fromFile_within {c : Config} (h : t.Within v) (ht : t.WellFormed) (hv : v.WellFormed)
    {file : Path} {as : List Artifact} (hgen : generated c t file = .ok as)
    (hready : Ready v c.outputDir as) :
    ∃ u, (fromFile c file).Ends t (.ok (as.map (·.path c.outputDir))) [.processing file] u ∧
      Stored t c.outputDir as u ∧ u.Within v := by
  obtain ⟨doc, classes, i, hdoc, hclasses, hi, rfl⟩ := generated_parts hgen
  obtain ⟨u, hfirst, hstored, hu⟩ := writeArtifacts_within h ht hv fun a ha =>
    hready a (List.mem_append_left _ ha)
  obtain ⟨old, hold⟩ := hready (.ofInterface i) (by simp)
  obtain ⟨w, hlast, hmore, hw⟩ := writeArtifact_within hu hstored.wrote.wellFormed hv hold
  rw [List.mapM_map] at hfirst
  refine ⟨w, ?_, hstored.trans hmore, hw⟩
  rw [List.map_append]
  exact fromFile_ends_ok hdoc hclasses hfirst hi hlast

end Writing

/-- A plan for which there is room is carried out. -/
theorem steps_within {c : Config} {t u v : FileTree} {taken : List Path} {p : Plan}
    (h : Reached c t taken p u) (hu : u.Within v) (ht : t.WellFormed) (hv : v.WellFormed)
    (hb : isPackageName c.packageName = true) {files : List Path} (hfiles : Pending t taken files)
    {q : Plan} (hq : planned c t files = .ok q) (hready : Ready v c.outputDir q.artifacts) :
    ∃ w, (files.foldlM (step c) (.after c.outputDir p)).Ends u (.ok (.after c.outputDir (p ++ q)))
        (p.notices c.outputDir q) w ∧ Reached c t (taken ++ files) (p ++ q) w ∧ w.Within v := by
  induction files generalizing taken p u q with
  | nil =>
    obtain rfl : q = [] := List.forall₂_nil_left_iff.mp (planned_iff.mp hq)
    refine ⟨u, ?_, by simpa using h, hu⟩
    rw [List.append_nil]
    exact Run.Ends.pure _ u
  | cons file rest ih =>
    obtain ⟨as, q, rfl, hgen, hq⟩ := planned_cons hq
    obtain ⟨hfile, hnew, hpending⟩ := hfiles.next
    have hthen := h.generated_eq ht hb hfile
    obtain ⟨w, hfrom, hstored, hw⟩ := fromFile_within hu h.stored.wrote.wellFormed hv
      (hthen.trans hgen)
      fun a ha => hready a (List.mem_flatMap.mpr ⟨_, List.mem_cons_self, ha⟩)
    obtain ⟨hstep, hreached⟩ := step_ends_ok h hb hnew hgen hfrom hstored
    obtain ⟨x, hrest, hx, hwithin⟩ := ih hreached hw hpending hq
      fun a ha => hready a (List.mem_append_right _ ha)
    rw [List.foldlM_cons]
    rw [List.append_assoc] at hrest
    exact ⟨x, hstep.bind hrest, by simpa using hx, hwithin⟩

end SchemaToJava.Generation
