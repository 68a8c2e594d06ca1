import Mathlib
import SchemaToJava.Proofs.Config.Setting
import SchemaToJava.Proofs.Generation.Steps
import SchemaToJava.Proofs.SchemaFile.Loading

/-!
What a run leaves. If it succeeds, every file that is generated holds the last artifact of the plan
that goes there, and nothing else has changed. If it fails, the same holds of the part of the plan
that it came through.
-/

namespace SchemaToJava.Generation

open Java SchemaFile

def schemaFiles (c : Config) (t : FileTree) : Except Fault (List Path) :=
  ((discover c.schemaDir (c.excludeFiles.filterMap Text.Wide.toString?)).on t).outcome

/-- In `u` every path of the artifacts holds the last of them that goes there, and all other files
are those of `t`. -/
structure Written (out : Path) (as : List Artifact) (t u : FileTree) : Prop where
  last : ∀ {before : List Artifact} {a : Artifact} {after : List Artifact},
    as = before ++ a :: after → (∀ b ∈ after, b.path out ≠ a.path out) →
    u.read (a.path out) = .ok (Text.Utf8.encode a.render)
  others : ∀ l, (∀ a ∈ as, t.placeOf (a.path out) ≠ l) → u.fileAt? l = t.fileAt? l

section Stored

variable {t u : FileTree} {out : Path} {as : List Artifact}

theorem lookup_stored (ht : t.WellFormed) (hlegal : ∀ a ∈ as, a.Legal)
    {before : List Artifact} {a : Artifact} {after : List Artifact}
    (hsplit : as = before ++ a :: after) (hlast : ∀ b ∈ after, b.path out ≠ a.path out) :
    (as.map fun a => (t.placeOf (a.path out), Text.Utf8.encode a.render)).reverse.lookup
      (t.placeOf (a.path out)) = some (Text.Utf8.encode a.render) := by
  have ha : a.Legal := hlegal a (by simp [hsplit])
  have hafter : ((after.map fun a => (t.placeOf (a.path out), Text.Utf8.encode a.render)).reverse.lookup
      (t.placeOf (a.path out))) = none := by
    rw [List.lookup_eq_none_iff]
    intro x hx
    obtain ⟨b, hb, rfl⟩ := List.mem_map.mp (List.mem_reverse.mp hx)
    rw [bne_iff_ne]
    intro heq
    have hlegalb : b.Legal := hlegal b (by simp [hsplit, hb])
    exact hlast b hb (ha.placeOf_injective hlegalb ht heq).symm
  rw [hsplit, List.map_append, List.map_cons, List.reverse_append, List.reverse_cons,
    List.append_assoc, List.lookup_append, hafter, Option.none_or, List.singleton_append,
    List.lookup_cons_self]

theorem Stored.written (h : Stored t out as u) (ht : t.WellFormed)
    (hlegal : ∀ a ∈ as, a.Legal) : Written out as t u where
  last := by
    intro before a after hsplit hlast
    obtain ⟨hnull, hplace⟩ := h.reached a (by simp [hsplit])
    exact h.wrote.read hnull hplace (lookup_stored ht hlegal hsplit hlast)
  others := by
    intro l hl
    refine h.wrote.fileAt?_eq ?_
    rw [List.map_map]
    intro hmem
    obtain ⟨a, ha, heq⟩ := List.mem_map.mp hmem
    exact hl a ha heq

theorem Stored.read_schemaFile (h : Stored t out as u) (ht : t.WellFormed)
    (hlegal : ∀ a ∈ as, a.Legal) {file : Path} (hfile : IsSchemaFile t file) :
    u.read file = t.read file := by
  refine FileTree.read_congr (hfile.find_eq ht h.wrote fun hmem => ?_)
  have hother := hasEnding_of_mem_places ht hlegal out hmem
  rw [hfile.ending ht] at hother
  cases hother

end Stored

theorem Stop.legal {c : Config} {t : FileTree} {file : Path} {e : Fault} {part : List Artifact}
    (h : Stop c t file e part) (hb : isPackageName c.packageName = true) :
    ∀ a ∈ part, a.Legal := by
  have hclasses : ∀ {doc : GraphQL.Document} {classes : List ClassDecl},
      (Emission.dataClasses c.packageName doc (some file.name)).outcome = .ok classes →
      ∀ a ∈ classes.map Artifact.ofClass, a.Legal := by
    intro doc classes hc a ha
    obtain ⟨d, hd, rfl⟩ := List.mem_map.mp ha
    exact Emission.legal_class hb hc hd
  cases h with
  | noDocument => simp
  | noClasses => simp
  | noFetcher _ built => exact hclasses built
  | classRefused _ built split =>
    intro a ha
    exact hclasses built a (split ▸ List.mem_append_left _ ha)
  | fetcherRefused _ built => exact hclasses built

theorem Stop.not_isDirectoryFault {c : Config} {t : FileTree} {file : Path} {e : Fault}
    {part : List Artifact} (h : Stop c t file e part) : ¬ IsDirectoryFault e := by
  have hbuild : ∀ {α : Type} {x : Traced α} {f : Fault}, Emission.Builds x →
      x.outcome = .error f → ¬ IsDirectoryFault f := by
    intro α x f hx hf hdir
    cases hx.fault f hf <;> cases hdir
  cases h with
  | noDocument failed => exact not_isDirectoryFault_document failed
  | noClasses _ failed => exact hbuild (Emission.builds_dataClasses _ _ _) failed
  | noFetcher _ _ failed => exact hbuild (Emission.builds_fetcher _ _ _) failed
  | classRefused => exact not_isDirectoryFault_fileFault (fun _ => by rintro ⟨⟩) _
  | fetcherRefused => exact not_isDirectoryFault_fileFault (fun _ => by rintro ⟨⟩) _

section Runs

variable {c : Config} {t u : FileTree} {files : List Path} {es : List Event}

theorem discover_ends_schemaFiles {o : Except Fault (List Path)} (h : schemaFiles c t = o) :
    (discover c.schemaDir (c.excludeFiles.filterMap Text.Wide.toString?)).Ends t o [] t :=
  h ▸ discover_ends t c.schemaDir _

theorem run_ends_undiscovered {e : Fault} (h : schemaFiles c t = .error e) :
    (run c).Ends t (.error e) [] t :=
  (discover_ends_schemaFiles h).bind_error _

theorem run_ends_ok (hfiles : schemaFiles c t = .ok files) {l : Ledger}
    (hsteps : (files.foldlM (step c) []).Ends t (.ok l) es u) :
    (run c).Ends t (.ok ⟨files, l.keys⟩) (.found files.length c.schemaDir :: es ++
      [.generated l.length c.outputDir]) u := by
  unfold run
  exact (discover_ends_schemaFiles hfiles).bind ((Run.Ends.note rfl t).bind (hsteps.bind
    ((Run.Ends.note rfl u).bind (Run.Ends.pure _ u))))

theorem run_ends_error (hfiles : schemaFiles c t = .ok files) {e : Fault}
    (hsteps : (files.foldlM (step c) []).Ends t (.error e) es u) :
    (run c).Ends t (.error e) (.found files.length c.schemaDir :: es) u := by
  unfold run
  exact (discover_ends_schemaFiles hfiles).bind ((Run.Ends.note rfl t).bind (hsteps.bind_error _))

/-- A run that has found its schema files goes through all of them or stops at one. -/
theorem run_ends (ht : t.WellFormed) (hb : isPackageName c.packageName = true)
    (hfiles : schemaFiles c t = .ok files) :
    (∃ p u, planned c t files = .ok p ∧ Stored t c.outputDir p.artifacts u ∧
      (run c).Ends t (.ok ⟨files, (p.paths c.outputDir).eraseDups⟩)
        (.found files.length c.schemaDir :: Plan.notices c.outputDir [] p ++
          [.generated (p.paths c.outputDir).eraseDups.length c.outputDir]) u) ∨
    ∃ before file after p e part u, files = before ++ file :: after ∧
      planned c t before = .ok p ∧ Stop c t file e part ∧
      Stored t c.outputDir (p.artifacts ++ part) u ∧
      (run c).Ends t (.error e) (.found files.length c.schemaDir ::
        (Plan.notices c.outputDir [] p ++ [.processing file])) u := by
  have hstart : Reached c t [] [] t := .start ht
  rcases steps_end hstart ht hb (.of_discover ht hfiles) with
    ⟨p, u, hsteps, hreached⟩ | ⟨before, file, after, p, e, part, u, hsplit, hsteps, hplan, hstop, hu⟩
  · have hkeys := Ledger.keys_after c.outputDir p
    have hlength : (Ledger.after c.outputDir p).length = (p.paths c.outputDir).eraseDups.length := by
      rw [← hkeys, Entries.keys, List.length_map]
    refine .inl ⟨p, u, hreached.planned, hreached.stored, ?_⟩
    rw [← hlength, ← hkeys]
    exact run_ends_ok hfiles hsteps
  · exact .inr ⟨before, file, after, p, e, part, u, hsplit, hplan, hstop, hu,
      run_ends_error hfiles hsteps⟩

/-- A run that came through: what it took, what the plan was and what is there now. -/
structure Completed (c : Config) (t : FileTree) (result : Result) (p : Plan) : Prop where
  files : schemaFiles c t = .ok result.schemaFiles
  planned : planned c t result.schemaFiles = .ok p
  stored : Stored t c.outputDir p.artifacts ((run c).on t).tree
  writtenFiles : result.writtenFiles = (p.paths c.outputDir).eraseDups
  warnings : ((run c).on t).warnings = Plan.warnings c.outputDir [] p

theorem completed_of_ok (ht : t.WellFormed) (hb : isPackageName c.packageName = true)
    {result : Result} (h : ((run c).on t).outcome = .ok result) : ∃ p, Completed c t result p := by
  cases hfiles : schemaFiles c t with
  | error e =>
    rw [(run_ends_undiscovered hfiles).outcome] at h
    cases h
  | ok files =>
    rcases run_ends ht hb hfiles with ⟨p, u, hplan, hstored, hends⟩ |
      ⟨_, _, _, _, _, _, _, _, _, _, _, hends⟩
    · rw [hends.outcome] at h
      cases h
      refine ⟨p, hfiles, hplan, hends.tree ▸ hstored, rfl, ?_⟩
      rw [Report.warnings_eq, hends.notices, List.filter_append, List.filter_cons_of_neg
        (by simp [Event.level]), Plan.filter_notices, List.filter_cons_of_neg
        (by simp [Event.level]), List.filter_nil, List.append_nil]
    · rw [hends.outcome] at h
      cases h

end Runs

/-- A successful run takes all schema files as they were before it, leaves the last artifact in each
file that it writes and every other file as it was, and warns of each file that a later schema file
replaces. -/
theorem run_ok_leaves_plan {s : Config.Settings} {c : Config} (hc : Config.ofSettings s = .ok c)
    {t : FileTree} (ht : t.WellFormed) {result : Result}
    (h : ((run c).on t).outcome = .ok result) :
    schemaFiles c t = .ok result.schemaFiles ∧ ∃ p, planned c t result.schemaFiles = .ok p ∧
      Written c.outputDir p.artifacts t ((run c).on t).tree ∧
      (∀ file ∈ result.schemaFiles, ((run c).on t).tree.read file = t.read file) ∧
      result.writtenFiles = (p.paths c.outputDir).eraseDups ∧
      ((run c).on t).warnings = Plan.warnings c.outputDir [] p := by
  have hb := Config.isPackageName_of_ofSettings hc
  obtain ⟨p, hrun⟩ := completed_of_ok ht hb h
  have hlegal : ∀ a ∈ p.artifacts, a.Legal := fun _ ha => legal_of_planned hb hrun.planned ha
  refine ⟨hrun.files, p, hrun.planned, hrun.stored.written ht hlegal, ?_, hrun.writtenFiles,
    hrun.warnings⟩
  intro file hfile
  exact hrun.stored.read_schemaFile ht hlegal (isSchemaFile_of_discover ht hrun.files hfile)

def sampleTree : FileTree :=
  ⟨[], [(["s"], .directory), (["s", "a.graphqls"], .file (Text.Utf8.encode "scalar X")),
    (["s", "d"], .directory), (["s", "d", "a.graphqls"], .file (Text.Utf8.encode "scalar X")),
    (["s", "z.graphqls"], .file (Text.Utf8.encode "\x7d"))]⟩

def sampleSettings (excluded : String) : Config.Settings :=
  [("schemaDir", .ofText "s"), ("outputDir", .ofText "o"), ("packageName", .ofText "p"),
    ("excludeFiles", .ofText excluded)]

def sample (excluded : String) : Config :=
  ⟨⟨.working, ["s"]⟩, ⟨.working, ["o"]⟩, "p", [.ofString excluded]⟩

theorem ofSettings_sample :
    Config.ofSettings (sampleSettings "z.graphqls") = .ok (sample "z.graphqls") := by
  cbv

def sampleFile (way : Location) : Path := ⟨.working, "s" :: way⟩

def sampleTarget : Path := ⟨.working, ["o", "p", "fetchers", "AFetcher.java"]⟩

def sampleOpened : FileTree :=
  ⟨[], (["o", "p", "fetchers"], .directory) :: (["o", "p"], .directory) :: (["o"], .directory) ::
    sampleTree.entries⟩

def sampleStored (bytes : List UInt8) : FileTree :=
  ⟨[], (sampleTarget.parts, .file bytes) :: sampleOpened.entries⟩

theorem sampleTree_wellFormed : sampleTree.WellFormed := by decide

theorem fromFile_sample (excluded : String) {t u : FileTree} {file : Path}
    (hname : file.name = "a.graphqls")
    (hdoc : document t file = .ok ⟨[.typeSystem (.scalar "X")]⟩)
    (hdirs : t.makeDirectories sampleTarget.parent = (u, .ok ()))
    (hwrite : ∀ bytes, u.write sampleTarget bytes = .ok (sampleStored bytes)) :
    ∃ bytes, (fromFile (sample excluded) file).Ends t (.ok [sampleTarget]) [.processing file]
      (sampleStored bytes) := by
  have hstore := writeArtifact_ends_ok (sample excluded).outputDir
    (.ofInterface ⟨"p.fetchers", "AFetcher", [Emission.component], [], some "a.graphqls"⟩)
    hdirs (hwrite _)
  have hclasses : (Emission.dataClasses (sample excluded).packageName ⟨[.typeSystem (.scalar "X")]⟩
      (some file.name)).outcome = .ok [] := rfl
  have hfetcher : (Emission.fetcher (sample excluded).packageName ⟨[.typeSystem (.scalar "X")]⟩
      file.name).outcome =
        .ok ⟨"p.fetchers", "AFetcher", [Emission.component], [], some "a.graphqls"⟩ := by
    rw [hname]
    rfl
  exact ⟨_, fromFile_ends_ok hdoc hclasses (Run.Ends.pure [] t) hfetcher hstore⟩

theorem steps_sample (excluded : String) : ∃ bytes,
    ([sampleFile ["a.graphqls"], sampleFile ["d", "a.graphqls"]].foldlM
      (step (sample excluded)) []).Ends sampleTree
      (.ok [(sampleTarget, sampleFile ["d", "a.graphqls"])])
      [.processing (sampleFile ["a.graphqls"]), .processing (sampleFile ["d", "a.graphqls"]),
        .overwrites sampleTarget (sampleFile ["d", "a.graphqls"]) (sampleFile ["a.graphqls"])]
      (sampleStored bytes) := by
  have hopen : sampleTree.makeDirectories sampleTarget.parent = (sampleOpened, .ok ()) := by cbv
  have hstore : ∀ bytes, sampleOpened.write sampleTarget bytes = .ok (sampleStored bytes) := by
    intro bytes
    cbv
  have hread : document sampleTree (sampleFile ["a.graphqls"]) =
      .ok ⟨[.typeSystem (.scalar "X")]⟩ := by cbv
  obtain ⟨first, hfirst⟩ := fromFile_sample excluded rfl hread hopen hstore
  have hopened : (sampleStored first).makeDirectories sampleTarget.parent =
      (sampleStored first, .ok ()) := by cbv
  have hreplace : ∀ bytes, (sampleStored first).write sampleTarget bytes =
      .ok (sampleStored bytes) := by
    intro bytes
    cbv
  have hreread : document (sampleStored first) (sampleFile ["d", "a.graphqls"]) =
      .ok ⟨[.typeSystem (.scalar "X")]⟩ := by cbv
  obtain ⟨second, hsecond⟩ := fromFile_sample excluded rfl hreread hopened hreplace
  have hnew := records_end [] (sampleFile ["a.graphqls"]) (List.nodup_singleton sampleTarget)
    (by simp) (sampleStored first)
  have hagain := records_end [(sampleTarget, sampleFile ["a.graphqls"])]
    (sampleFile ["d", "a.graphqls"]) (List.nodup_singleton sampleTarget) (by decide)
    (sampleStored second)
  exact ⟨second, (hfirst.bind hnew).bind ((hsecond.bind hagain).bind (Run.Ends.pure _ _))⟩

theorem run_ok_leaves_plan_sample : ∃ p,
    planned (sample "z.graphqls") sampleTree
      [sampleFile ["a.graphqls"], sampleFile ["d", "a.graphqls"]] = .ok p ∧
    Written ⟨.working, ["o"]⟩ p.artifacts sampleTree
      ((run (sample "z.graphqls")).on sampleTree).tree ∧
    ((run (sample "z.graphqls")).on sampleTree).warnings =
      Plan.warnings ⟨.working, ["o"]⟩ [] p := by
  have hfiles : schemaFiles (sample "z.graphqls") sampleTree =
      .ok [sampleFile ["a.graphqls"], sampleFile ["d", "a.graphqls"]] := by cbv
  obtain ⟨bytes, hsteps⟩ := steps_sample "z.graphqls"
  have hsettings : Config.ofSettings (sampleSettings "z.graphqls") = .ok (sample "z.graphqls") := by
    cbv
  obtain ⟨-, p, hp, hwritten, -, -, hwarnings⟩ :=
    run_ok_leaves_plan hsettings sampleTree_wellFormed (run_ends_ok hfiles hsteps).outcome
  exact ⟨p, hp, hwritten, hwarnings⟩

/-- A failed run has written everything from the schema files before the one it stops at and the
artifacts of that one that were built and accepted before the fault. Without schema files to take it
leaves all files as they were. -/
theorem run_error_leaves_part {s : Config.Settings} {c : Config}
    (hc : Config.ofSettings s = .ok c) {t : FileTree} (ht : t.WellFormed) {e : Fault}
    (h : ((run c).on t).outcome = .error e) :
    (IsDirectoryFault e → ((run c).on t).tree = t) ∧
    ((schemaFiles c t = .error e ∧ ((run c).on t).tree = t ∧ processed ((run c).on t).events = []) ∨
    ∃ before file after p part, schemaFiles c t = .ok (before ++ file :: after) ∧
      processed ((run c).on t).events = before ++ [file] ∧ planned c t before = .ok p ∧
      Stop c t file e part ∧ Written c.outputDir (p.artifacts ++ part) t ((run c).on t).tree) := by
  have hb := Config.isPackageName_of_ofSettings hc
  have hprocessed : processed ((run c).on t).events = processed ((run c).on t).notices :=
    (processed_filter _).symm
  rw [hprocessed]
  cases hfiles : schemaFiles c t with
  | error f =>
    have hends := run_ends_undiscovered hfiles
    rw [hends.outcome] at h
    cases h
    exact ⟨fun _ => hends.tree, .inl ⟨rfl, hends.tree, by rw [hends.notices]; rfl⟩⟩
  | ok files =>
    rcases run_ends ht hb hfiles with ⟨_, _, _, _, hends⟩ |
      ⟨before, file, after, p, f, part, u, rfl, hplan, hstop, hstored, hends⟩
    · rw [hends.outcome] at h
      cases h
    · rw [hends.outcome] at h
      cases h
      have hlegal : ∀ a ∈ p.artifacts ++ part, a.Legal := by
        intro a ha
        rcases List.mem_append.mp ha with ha | ha
        · exact legal_of_planned hb hplan ha
        · exact hstop.legal hb a ha
      refine ⟨fun hdir => absurd hdir hstop.not_isDirectoryFault,
        .inr ⟨before, file, after, p, part, rfl, ?_, hplan, hstop, ?_⟩⟩
      · rw [hends.notices, ← List.singleton_append, processed_append, processed_append,
          Plan.processed_notices, sources_of_planned hplan]
        rfl
      · rw [hends.tree]
        exact hstored.written ht hlegal

theorem run_error_leaves_part_sample : ∃ e before file after p part,
    ((run (sample "x.graphqls")).on sampleTree).outcome = .error e ∧
    schemaFiles (sample "x.graphqls") sampleTree = .ok (before ++ file :: after) ∧
    processed ((run (sample "x.graphqls")).on sampleTree).events = before ++ [file] ∧
    planned (sample "x.graphqls") sampleTree before = .ok p ∧
    Stop (sample "x.graphqls") sampleTree file e part ∧
    Written ⟨.working, ["o"]⟩ (p.artifacts ++ part) sampleTree
      ((run (sample "x.graphqls")).on sampleTree).tree := by
  have hfiles : schemaFiles (sample "x.graphqls") sampleTree =
      .ok ([sampleFile ["a.graphqls"], sampleFile ["d", "a.graphqls"]] ++
        [sampleFile ["z.graphqls"]]) := by cbv
  obtain ⟨bytes, hsteps⟩ := steps_sample "x.graphqls"
  have hbroken : document (sampleStored bytes) (sampleFile ["z.graphqls"]) =
      .error (.invalidSchema (sampleFile ["z.graphqls"]) "/s/z.graphqls" ['\x7d']
        ⟨.unexpected (.punct .braceR), ⟨1, 1⟩⟩) := by cbv
  have hlast := fromFile_ends_unread (c := sample "x.graphqls") hbroken
  have hrun := (run_ends_error hfiles (steps_end_error hsteps (hlast.bind_error _) [])).outcome
  have hsettings : Config.ofSettings (sampleSettings "x.graphqls") = .ok (sample "x.graphqls") := by
    cbv
  rcases (run_error_leaves_part hsettings sampleTree_wellFormed hrun).2 with ⟨hnone, -, -⟩ |
    ⟨before, file, after, p, part, hsplit, hprocessed, hp, hstop, hwritten⟩
  · rw [hfiles] at hnone
    cases hnone
  · exact ⟨_, before, file, after, p, part, hrun, hsplit, hprocessed, hp, hstop, hwritten⟩

end SchemaToJava.Generation
