import SchemaToJava.Proofs.Generation.Again

/-!
Schema files in another order. If nothing is generated from two of them, what a run writes does not
depend on the order in which they are taken.
-/

namespace SchemaToJava.Generation

open Java SchemaFile

namespace Plan

variable {out : Path} {p q : Plan}

/-- No file is generated from two of the schema files. -/
def Apart (out : Path) (p : Plan) : Prop :=
  p.Pairwise fun d e => (d.2.map (·.path out)).Disjoint (e.2.map (·.path out))

theorem Apart.perm (h : p.Apart out) (hperm : p.Perm q) : q.Apart out :=
  (hperm.pairwise_iff fun hd => hd.symm).mp h

theorem overwrites_eq_nil_iff {source : Path} {as : List Artifact} :
    p.overwrites out source as = [] ↔
      ∀ e ∈ p, (e.2.map (·.path out)).Disjoint (as.map (·.path out)) := by
  simp only [overwrites, List.filterMap_eq_nil_iff, Option.map_eq_none_iff, latest?_eq_none_iff,
    List.disjoint_right, List.forall_mem_map]
  exact ⟨fun h e he a ha => h a ha e he, fun h a ha e he => h e he a ha⟩

/-- There is no warning just if no file is generated from two schema files. -/
theorem warnings_eq_nil_iff : warnings out [] p = [] ↔ p.Apart out := by
  induction p using List.reverseRecOn with
  | nil => simp [warnings, Apart]
  | append_singleton p e ih =>
    obtain ⟨source, as⟩ := e
    rw [warnings_append, List.append_eq_nil_iff, ih, Apart, Apart, List.pairwise_append]
    simp [warnings, overwrites_eq_nil_iff]

end Plan

section Planned

variable {c : Config} {t : FileTree} {files others : List Path} {p : Plan}

theorem planned_perm (h : planned c t files = .ok p) (hperm : files.Perm others) :
    ∃ q, planned c t others = .ok q ∧ p.Perm q := by
  obtain ⟨q, hq, hpq⟩ := List.perm_comp_forall₂ hperm.symm (planned_iff.mp h)
  exact ⟨q, planned_iff.mpr hq, hpq.symm⟩

theorem nodup_paths_of_planned (hb : isPackageName c.packageName = true)
    (h : planned c t files = .ok p) (hapart : p.Apart c.outputDir) :
    (p.paths c.outputDir).Nodup := by
  rw [Plan.paths, Plan.artifacts, List.map_flatMap, List.nodup_flatMap]
  refine ⟨fun e he => ?_, hapart⟩
  obtain ⟨doc, -, has⟩ := generated_eq_ok_iff.mp (generated_of_planned h he).2
  exact Emission.nodup_paths hb has c.outputDir

end Planned

theorem Stored.fileAt?_eq {t u v : FileTree} {out : Path} {as bs : List Artifact}
    (h : Stored t out as u) (k : Stored t out bs v) (ht : t.WellFormed)
    (hlegal : ∀ a ∈ as, a.Legal) (hn : (as.map (·.path out)).Nodup) (hperm : as.Perm bs)
    (l : Location) : v.fileAt? l = u.fileAt? l := by
  have hplaces := Artifact.nodup_places hlegal hn ht
  rw [k.wrote.files, h.wrote.files]
  refine congrArg (fun held : Option _ => held.or _) (Entries.lookup_perm ?_ ?_ l).symm
  · rw [List.map_reverse, List.nodup_reverse, List.map_map]
    exact hplaces
  · exact (List.reverse_perm _).trans ((hperm.map _).trans (List.reverse_perm _).symm)

section Steps

variable {c : Config} {t : FileTree} {files others : List Path}

theorem steps_of_ok (ht : t.WellFormed) (hb : isPackageName c.packageName = true)
    (hfiles : Pending t [] files) {l : Ledger}
    (h : ((files.foldlM (step c) []).on t).outcome = .ok l) :
    ∃ p u, (files.foldlM (step c) []).Ends t (.ok (.after c.outputDir p))
      (Plan.notices c.outputDir [] p) u ∧ Reached c t files p u := by
  have hstart : Reached c t [] [] t := .start ht
  rcases steps_end hstart ht hb hfiles with
    ⟨p, u, hsteps, hreached⟩ | ⟨_, _, _, _, _, _, _, -, hsteps, -⟩
  · exact ⟨p, u, hsteps, hreached⟩
  · have hsame := h.symm.trans hsteps.outcome
    cases hsame

/-- With all that a plan writes in place, the plan can be carried out in any order. -/
theorem steps_of_reached {p q : Plan} {u : FileTree} (hu : Reached c t files p u)
    (ht : t.WellFormed) (hb : isPackageName c.packageName = true)
    (hothers : Pending t [] others) (hq : planned c t others = .ok q) (hperm : p.Perm q) :
    ∃ w, (others.foldlM (step c) []).Ends t (.ok (.after c.outputDir q))
      (Plan.notices c.outputDir [] q) w ∧ Reached c t others q w ∧ w.Within u := by
  have hstart : Reached c t [] [] t := .start ht
  exact steps_within hstart hu.stored.wrote.within ht hu.stored.wrote.wellFormed hb hothers hq
    fun a ha => hu.stored.ready a ((hperm.flatMap_right _).mem_iff.mpr ha)

theorem sameTree_of_perm {p q : Plan} {u v : FileTree} (hu : Reached c t files p u)
    (hv : Reached c t others q v) (ht : t.WellFormed) (hb : isPackageName c.packageName = true)
    (hapart : p.Apart c.outputDir) (hperm : p.Perm q) (huv : u.Within v) (hvu : v.Within u) :
    SameTree u v where
  home := hvu.home
  entries := fun l => by
    refine FileTree.get?_congr ?_ ⟨hvu.directories, huv.directories⟩
    exact hu.stored.fileAt?_eq hv.stored ht (fun _ ha => legal_of_planned hb hu.planned ha)
      (nodup_paths_of_planned hb hu.planned hapart) (hperm.flatMap_right _) l

end Steps

theorem Ledger.keys_after_perm {out : Path} {p q : Plan} (h : p.Perm q) :
    (after out p).keys.Perm (after out q).keys := by
  have hpaths : (p.paths out).Perm (q.paths out) := (h.flatMap_right _).map _
  rw [List.perm_ext_iff_of_nodup (nodup_keys_after out p) (nodup_keys_after out q)]
  intro file
  rw [keys_after, keys_after, List.mem_eraseDups, List.mem_eraseDups, hpaths.mem_iff]

/-- If schema files go through without a warning, they go through without a warning in any order,
and the same files are written with the same contents. -/
theorem steps_reordered {s : Config.Settings} {c : Config} (hc : Config.ofSettings s = .ok c)
    {t : FileTree} (ht : t.WellFormed) {files others : List Path}
    (hfiles : ∀ file ∈ files, IsSchemaFile t file) (hn : files.Nodup) (hperm : files.Perm others)
    {l : Ledger} (h : ((files.foldlM (step c) []).on t).outcome = .ok l)
    (hquiet : ((files.foldlM (step c) []).on t).warnings = []) :
    ∃ m, ((others.foldlM (step c) []).on t).outcome = .ok m ∧
      ((others.foldlM (step c) []).on t).warnings = [] ∧ m.keys.Perm l.keys ∧
      SameTree ((files.foldlM (step c) []).on t).tree ((others.foldlM (step c) []).on t).tree := by
  have hb := Config.isPackageName_of_ofSettings hc
  have hpending : Pending t [] files := .start hfiles hn
  obtain ⟨p, u, hsteps, hu⟩ := steps_of_ok ht hb hpending h
  obtain rfl : l = .after c.outputDir p := Except.ok.inj (h.symm.trans hsteps.outcome)
  have hapart : p.Apart c.outputDir := by
    rwa [Report.warnings_eq, hsteps.notices, Plan.filter_notices, Plan.warnings_eq_nil_iff]
      at hquiet
  obtain ⟨q, hq, hpq⟩ := planned_perm hu.planned hperm
  obtain ⟨v, hagain, hv, hvu⟩ := steps_of_reached hu ht hb (hpending.perm hperm) hq hpq
  -- The first order, once more with the tree of the second around it, gives what it gave.
  obtain ⟨w, hback, -, huv⟩ := steps_of_reached hv ht hb hpending hu.planned hpq.symm
  rw [← hback.tree, hsteps.tree] at huv
  refine ⟨_, hagain.outcome, ?_, Ledger.keys_after_perm hpq.symm, ?_⟩
  · rw [Report.warnings_eq, hagain.notices, Plan.filter_notices, Plan.warnings_eq_nil_iff]
    exact hapart.perm hpq
  · rw [hsteps.tree, hagain.tree]
    exact sameTree_of_perm hu hv ht hb hapart hpq huv hvu

def sampleApart : FileTree :=
  ⟨[], [(["s"], .directory), (["s", "a.graphqls"], .file (Text.Utf8.encode "scalar X")),
    (["s", "b.graphqls"], .file (Text.Utf8.encode "scalar X"))]⟩

theorem sampleApart_wellFormed : sampleApart.WellFormed := by decide

theorem isSchemaFile_sampleApart :
    ∀ file ∈ [sampleFile ["a.graphqls"], sampleFile ["b.graphqls"]],
      IsSchemaFile sampleApart file := by
  have hstart : sampleApart.locate ⟨.working, ["s"]⟩ = .ok ["s"] := by decide
  intro file hfile
  fin_cases hfile
  · exact .intro hstart (List.cons_ne_nil "a.graphqls" []) rfl (by decide)
  · exact .intro hstart (List.cons_ne_nil "b.graphqls" []) rfl (by decide)

def sampleFetcher (name source : String) : Artifact :=
  .ofInterface ⟨"p.fetchers", name, [Emission.component], [], some source⟩

theorem planned_sampleApart :
    planned (sample "z.graphqls") sampleApart
        [sampleFile ["a.graphqls"], sampleFile ["b.graphqls"]] =
      .ok [(sampleFile ["a.graphqls"], [sampleFetcher "AFetcher" "a.graphqls"]),
        (sampleFile ["b.graphqls"], [sampleFetcher "BFetcher" "b.graphqls"])] := by
  refine planned_iff.mpr (.cons ⟨rfl, ?_⟩ (.cons ⟨rfl, ?_⟩ .nil))
  · exact generated_eq_ok_iff.mpr ⟨⟨[.typeSystem (.scalar "X")]⟩, by cbv, by rfl⟩
  · exact generated_eq_ok_iff.mpr ⟨⟨[.typeSystem (.scalar "X")]⟩, by cbv, by rfl⟩

def sampleRoom : FileTree :=
  ⟨[], ([(["o"], .directory), (["o", "p"], .directory), (["o", "p", "fetchers"], .directory),
    (["o", "p", "fetchers", "AFetcher.java"], .file []),
    (["o", "p", "fetchers", "BFetcher.java"], .file [])] : List (Location × Entry)) ++
      sampleApart.entries⟩

theorem sampleApart_within : sampleApart.Within sampleRoom :=
  .of_append (by decide)

def sampleSteps (files : List Path) : Report Ledger :=
  (files.foldlM (step (sample "z.graphqls")) []).on sampleApart

theorem steps_reordered_sample : ∃ l m,
    (sampleSteps [sampleFile ["a.graphqls"], sampleFile ["b.graphqls"]]).outcome = .ok l ∧
    (sampleSteps [sampleFile ["a.graphqls"], sampleFile ["b.graphqls"]]).warnings = [] ∧
    (sampleSteps [sampleFile ["b.graphqls"], sampleFile ["a.graphqls"]]).outcome = .ok m ∧
    (sampleSteps [sampleFile ["b.graphqls"], sampleFile ["a.graphqls"]]).warnings = [] ∧
    m.keys.Perm l.keys ∧
    SameTree (sampleSteps [sampleFile ["a.graphqls"], sampleFile ["b.graphqls"]]).tree
      (sampleSteps [sampleFile ["b.graphqls"], sampleFile ["a.graphqls"]]).tree := by
  have hready : Ready sampleRoom (sample "z.graphqls").outputDir
      [sampleFetcher "AFetcher" "a.graphqls", sampleFetcher "BFetcher" "b.graphqls"] := by
    intro a ha
    fin_cases ha
    all_goals exact ⟨[], by cbv⟩
  obtain ⟨u, hsteps, -⟩ := steps_within (.start sampleApart_wellFormed) sampleApart_within
    sampleApart_wellFormed (by decide) (by decide) (.start isSchemaFile_sampleApart (by decide))
    planned_sampleApart hready
  have hquiet : (sampleSteps
      [sampleFile ["a.graphqls"], sampleFile ["b.graphqls"]]).warnings = [] := by
    rw [Report.warnings_eq]
    refine (congrArg (List.filter _) hsteps.notices).trans ?_
    rw [Plan.filter_notices]
    cbv
  obtain ⟨m, hm⟩ := steps_reordered ofSettings_sample sampleApart_wellFormed
    isSchemaFile_sampleApart (by decide) (List.Perm.swap _ _ []) hsteps.outcome hquiet
  exact ⟨_, m, hsteps.outcome, hquiet, hm⟩

end SchemaToJava.Generation
