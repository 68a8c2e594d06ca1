import SchemaToJava.Proofs.Generation.Room
import SchemaToJava.Proofs.Generation.Story

/-!
Files that are written again. The warnings for a schema file are given after all of its files have
been written, so a run tells of every file that it replaces, but for those that it replaces from the
schema file at which it stops.
-/

namespace SchemaToJava.Generation

open Java SchemaFile

/-- The schema file that a file was last written from. -/
def writer? (ws : List (Path × Path)) (file : Path) : Option Path :=
  (ws.reverse.find? (·.2 == file)).map (·.1)

theorem writer?_append (ws vs : List (Path × Path)) (file : Path) :
    writer? (ws ++ vs) file = (writer? vs file).or (writer? ws file) := by
  rw [writer?, List.reverse_append, List.find?_append, Option.map_or]
  rfl

theorem writer?_map (source : Path) (files : List Path) (file : Path) :
    writer? (files.map (source, ·)) file = if file ∈ files then some source else none := by
  rw [writer?, ← List.map_reverse, List.find?_map]
  split
  · rename_i hfile
    obtain ⟨f, hf⟩ := Option.isSome_iff_exists.mp (List.find?_isSome (p := (· == file)).mpr
      ⟨file, List.mem_reverse.mpr hfile, beq_self_eq_true file⟩)
    simp only [Function.comp_def, hf, Option.map_some]
  · rename_i hfile
    have hnone : files.reverse.find? (· == file) = none := by
      rw [List.find?_eq_none]
      intro f hf
      rw [beq_iff_eq]
      rintro rfl
      exact hfile (List.mem_reverse.mp hf)
    simp only [Function.comp_def, hnone, Option.map_none]

theorem lookup_enter (h : History) (file : Path) :
    (Ledger.enter [] h).lookup file = writer? h.writings file := by
  induction h using List.reverseRecOn with
  | nil => rfl
  | append_singleton h e ih =>
    rw [Ledger.enter, List.foldl_append, List.foldl_cons, List.foldl_nil, Ledger.lookup_enterAll,
      History.writings, List.flatMap_append, List.flatMap_singleton, writer?_append, writer?_map]
    split
    · rfl
    · exact ih

/-- The schema file, other than `source`, that a file was last written from. -/
def otherWriter? (ws : List (Path × Path)) (source file : Path) : Option Path :=
  writer? (ws.filter (·.1 ≠ source)) file

theorem otherWriter?_append (ws vs : List (Path × Path)) (source file : Path) :
    otherWriter? (ws ++ vs) source file =
      (otherWriter? vs source file).or (otherWriter? ws source file) := by
  rw [otherWriter?, List.filter_append, writer?_append]
  rfl

theorem writer?_eq_none {ws : List (Path × Path)} {file : Path} (h : ∀ v ∈ ws, v.2 ≠ file) :
    writer? ws file = none := by
  rw [writer?, Option.map_eq_none_iff, List.find?_eq_none]
  intro v hv
  rw [beq_iff_eq]
  exact h v (List.mem_reverse.mp hv)

theorem exists_writer? {ws : List (Path × Path)} {f file : Path} (h : (f, file) ∈ ws) :
    ∃ y, writer? ws file = some y := by
  rw [← Option.isSome_iff_exists, writer?, Option.isSome_map, List.find?_isSome]
  exact ⟨(f, file), List.mem_reverse.mpr h, beq_self_eq_true file⟩

theorem split_of_writer? {ws : List (Path × Path)} {y file : Path}
    (h : writer? ws file = some y) :
    ∃ before after, ws = before ++ (y, file) :: after ∧ ∀ v ∈ after, v.2 ≠ file := by
  obtain ⟨⟨_, _⟩, hfind, rfl⟩ := Option.map_eq_some_iff.mp h
  obtain ⟨heq, after, before, hsplit, hafter⟩ := List.find?_eq_some_iff_append.mp hfind
  obtain rfl := beq_iff_eq.mp heq
  refine ⟨before.reverse, after.reverse, ?_, fun v hv => ?_⟩
  · rw [← List.reverse_reverse ws, hsplit]
    simp
  · simpa using hafter v (List.mem_reverse.mp hv)

theorem mem_of_split {before after : List (Path × Path)} {f y file : Path}
    (h : (f, file) ∈ before ++ (y, file) :: after) (hafter : ∀ v ∈ after, v.2 ≠ file)
    (hne : f ≠ y) : (f, file) ∈ before := by
  rcases List.mem_append.mp h with hin | hin
  · exact hin
  · rcases List.mem_cons.mp hin with heq | hin
    · exact absurd (congrArg Prod.fst heq) hne
    · exact absurd rfl (hafter _ hin)

/-- What is written later, from other schema files or to other files, makes no difference. -/
theorem otherWriter?_split {before after : List (Path × Path)} {y source file : Path}
    (h : ∀ v ∈ after, v.2 ≠ file) :
    otherWriter? (before ++ (y, file) :: after) source file =
      if y = source then otherWriter? before source file else some y := by
  have hafter : otherWriter? after source file = none :=
    writer?_eq_none fun v hv => h v (List.mem_of_mem_filter hv)
  rw [← List.singleton_append, otherWriter?_append, otherWriter?_append, hafter, Option.none_or]
  by_cases hy : y = source <;> simp [otherWriter?, writer?, hy]

theorem writings_concat (h : History) (source : Path) (files : List Path) :
    History.writings (h ++ [(source, files)]) = h.writings ++ files.map (source, ·) := by
  simp [History.writings]

theorem mem_toldAll {l : Ledger} {source file previous : Path} {files : List Path}
    (hfile : file ∈ files) (hl : l.lookup file = some previous) (hne : previous ≠ source) :
    .overwrites file source previous ∈ toldAll source l files := by
  induction files generalizing l with
  | nil => cases hfile
  | cons f files ih =>
    rw [toldAll, List.mem_append]
    by_cases hf : file = f
    · exact .inl (by simp [told, ← hf, hl, hne])
    · refine .inr (ih ((List.mem_cons.mp hfile).resolve_left hf) ?_)
      rw [Entries.lookup_put, if_neg hf, hl]

theorem source_of_mem_toldAll {l : Ledger} {f file source previous : Path} {files : List Path}
    (h : .overwrites file source previous ∈ toldAll f l files) : source = f := by
  induction files generalizing l with
  | nil => cases h
  | cons g files ih =>
    rw [toldAll, List.mem_append, told] at h
    rcases h with h | h
    · split at h
      · split at h
        · cases h
        · cases List.mem_singleton.mp h
          rfl
      · cases h
    · exact ih h

theorem source_of_mem_story {l : Ledger} {h : History} {file source previous : Path}
    (hmem : .overwrites file source previous ∈ story l h) : source ∈ h.map (·.1) := by
  induction h generalizing l with
  | nil => cases hmem
  | cons e h ih =>
    obtain ⟨f, files⟩ := e
    rw [List.map_cons, List.mem_cons]
    rw [story, List.mem_append, List.mem_append] at hmem
    rcases hmem with (hmem | hmem) | hmem
    · simp at hmem
    · exact .inl (source_of_mem_toldAll hmem)
    · exact .inr (ih hmem)

theorem append_split {α : Type} {xs ys before after : List α} {x : α}
    (h : xs ++ ys = before ++ x :: after) :
    (∃ mine, before = xs ++ mine ∧ ys = mine ++ x :: after) ∨ ∃ more, xs = before ++ x :: more := by
  rcases List.append_eq_append_iff.mp h with ⟨mine, hbefore, hys⟩ | ⟨_ | ⟨y, more⟩, hxs, hrest⟩
  · exact .inl ⟨mine, hbefore, hys⟩
  · rw [List.append_nil] at hxs
    exact .inl ⟨[], by rw [List.append_nil, hxs], hrest.symm⟩
  · cases hrest
    exact .inr ⟨more, hxs⟩

theorem fst_of_map_split {source : Path} {files : List Path} {mine after : List (Path × Path)}
    {w : Path × Path} (h : files.map (source, ·) = mine ++ w :: after) :
    (∀ v ∈ mine, v.1 = source) ∧ w.1 = source ∧ w.2 ∈ files := by
  have hall : ∀ v ∈ mine ++ w :: after, v.1 = source ∧ v.2 ∈ files := by
    rw [← h]
    simp
  exact ⟨fun v hv => (hall v (by simp [hv])).1, hall w (by simp)⟩

theorem overwrites_mem_story {h : History} {before after : List (Path × Path)} {f g file : Path}
    (hs : h.writings = before ++ (g, file) :: after) (hf : (f, file) ∈ before) (hne : f ≠ g) :
    ∃ previous, otherWriter? before g file = some previous ∧
      .overwrites file g previous ∈ story [] h := by
  -- From the end: what the ledger has when a schema file is entered comes from those before it.
  induction h using List.reverseRecOn generalizing before after with
  | nil => simp [History.writings] at hs
  | append_singleton h e ih =>
    obtain ⟨source, files⟩ := e
    rw [story_append]
    rw [writings_concat] at hs
    rcases append_split hs with ⟨mine, rfl, hmine⟩ | ⟨more, hmore⟩
    · obtain ⟨hown, rfl, hfile⟩ := fst_of_map_split hmine
      have hbefore : (f, file) ∈ History.writings h :=
        (List.mem_append.mp hf).resolve_right fun hf => hne (hown _ hf)
      have hnobody : otherWriter? mine g file = none := by
        rw [otherWriter?, List.filter_eq_nil_iff.mpr fun v hv => by simp [hown v hv]]
        rfl
      rw [otherWriter?_append, hnobody, Option.none_or]
      obtain ⟨y, hy⟩ := exists_writer? hbefore
      obtain ⟨earlier, later, hsplit, hlater⟩ := split_of_writer? hy
      rw [hsplit, otherWriter?_split hlater]
      by_cases hsame : y = g
      · -- It was this schema file already, and then the warning was given before.
        have hearlier := mem_of_split (hsplit ▸ hbefore) hlater (hsame ▸ hne)
        obtain ⟨previous, hprevious, htold⟩ := ih (hsame ▸ hsplit) hearlier
        rw [if_pos hsame]
        exact ⟨previous, hprevious, List.mem_append_left _ htold⟩
      · rw [if_neg hsame]
        refine ⟨y, rfl, List.mem_append_right _ ?_⟩
        have hlookup := (lookup_enter h file).trans hy
        simpa [story] using mem_toldAll hfile hlookup hsame
    · obtain ⟨previous, hprevious, htold⟩ := ih hmore hf
      exact ⟨previous, hprevious, List.mem_append_left _ htold⟩

/-- When a file that was written from one schema file is written again from another, there is a
warning that names it, the later schema file and the one, other than that, that it was last written
from; or else the run fails, and the later schema file is the last that it took. -/
theorem overwrites_of_run (c : Config) (t : FileTree) {before after : List (Path × Path)}
    {f g file : Path}
    (h : writings ((run c).on t).events = before ++ (g, file) :: after)
    (hf : (f, file) ∈ before) (hne : f ≠ g) :
    (∃ previous, otherWriter? before g file = some previous ∧
      .overwrites file g previous ∈ ((run c).on t).warnings) ∨
    ∃ e, ((run c).on t).outcome = .error e ∧
      (processed ((run c).on t).events).getLast? = some g := by
  have hshows := shows_on (run c) t
  rw [← writings_marks] at h
  rw [← processed_marks]
  simp only [overwrites_mem_warnings]
  generalize ((run c).on t).outcome = o at hshows
  generalize marks ((run c).on t).events = ms at h hshows
  rcases shows_run hshows with htells | ⟨_, -, rfl⟩
  · cases htells with
    | through result history =>
      rw [writings_story] at h
      exact .inl (overwrites_mem_story h hf hne)
    | stopped e history source files =>
      rw [writings_stopped] at h
      rcases append_split h with ⟨mine, rfl, hmine⟩ | ⟨more, hmore⟩
      · obtain ⟨-, rfl, -⟩ := fst_of_map_split hmine
        refine .inr ⟨e, rfl, ?_⟩
        rw [processed_stopped]
        exact List.getLast?_concat
      · obtain ⟨previous, hprevious, htold⟩ := overwrites_mem_story hmore hf hne
        exact .inl ⟨previous, hprevious, List.mem_append_left _ htold⟩
  · cases before <;> cases h

/-- A run that fails gives no warnings for the schema file that it took last. -/
theorem source_of_warning (c : Config) (t : FileTree) {e : Fault}
    (h : ((run c).on t).outcome = .error e) {file source previous : Path}
    (hwarning : .overwrites file source previous ∈ ((run c).on t).warnings) :
    source ∈ (processed ((run c).on t).events).dropLast := by
  have hshows := shows_on (run c) t
  rw [overwrites_mem_warnings] at hwarning
  rw [← processed_marks]
  rw [h] at hshows
  generalize marks ((run c).on t).events = ms at hwarning hshows
  rcases shows_run hshows with htells | ⟨_, -, rfl⟩
  · cases htells with
    | stopped e history last files =>
      rw [processed_stopped, List.dropLast_concat]
      rcases List.mem_append.mp hwarning with hmem | hmem
      · exact source_of_mem_story hmem
      · simp at hmem
  · cases hwarning

def sampleClash : FileTree :=
  ⟨[], [(["s"], .directory),
    (["s", "a.graphqls"], .file (Text.Utf8.encode "type T \x7b x: Int \x7d")),
    (["s", "b.graphqls"], .file (Text.Utf8.encode "type T \x7b y: Int \x7d")),
    (["s", "c-d.graphqls"], .file (Text.Utf8.encode "type T \x7b z: Int \x7d"))]⟩

theorem sampleClash_wellFormed : sampleClash.WellFormed := by decide

def sampleClashRoom : FileTree :=
  ⟨[], ([(["o"], .directory), (["o", "p"], .directory), (["o", "p", "types"], .directory),
    (["o", "p", "fetchers"], .directory), (["o", "p", "types", "T.java"], .file []),
    (["o", "p", "fetchers", "AFetcher.java"], .file []),
    (["o", "p", "fetchers", "BFetcher.java"], .file [])] : List (Location × Entry)) ++
      sampleClash.entries⟩

theorem sampleClash_within : sampleClash.Within sampleClashRoom := .of_append (by decide)

def sampleClassTarget : Path := ⟨.working, ["o", "p", "types", "T.java"]⟩

def sampleFetcherTarget (name : String) : Path :=
  ⟨.working, ["o", "p", "fetchers", name ++ ".java"]⟩

def sampleType (field : String) : GraphQL.Document :=
  ⟨[.typeSystem (.object ⟨none, "T", [], [], [⟨none, field, [], .named "Int", []⟩]⟩)]⟩

def sampleClass (field source : String) : ClassDecl :=
  ⟨"p.types", "T", Emission.dataClassAnnotations, [⟨field, .primitive "int", []⟩], some source⟩

def sampleInterface (name source : String) : InterfaceDecl :=
  ⟨"p.fetchers", name, [Emission.component], [], some source⟩

def samplePlan : Plan :=
  [(sampleFile ["a.graphqls"], [.ofClass (sampleClass "x" "a.graphqls"),
      .ofInterface (sampleInterface "AFetcher" "a.graphqls")]),
    (sampleFile ["b.graphqls"], [.ofClass (sampleClass "y" "b.graphqls"),
      .ofInterface (sampleInterface "BFetcher" "b.graphqls")])]

theorem planned_sampleClash : planned (sample "z.graphqls") sampleClash
    [sampleFile ["a.graphqls"], sampleFile ["b.graphqls"]] = .ok samplePlan := by
  refine planned_iff.mpr (.cons ⟨rfl, ?_⟩ (.cons ⟨rfl, ?_⟩ .nil))
  · exact generated_eq_ok_iff.mpr ⟨sampleType "x", by cbv, by rfl⟩
  · exact generated_eq_ok_iff.mpr ⟨sampleType "y", by cbv, by rfl⟩

theorem history_samplePlan : samplePlan.history ⟨.working, ["o"]⟩ =
    [(sampleFile ["a.graphqls"], [sampleClassTarget, sampleFetcherTarget "AFetcher"]),
      (sampleFile ["b.graphqls"], [sampleClassTarget, sampleFetcherTarget "BFetcher"])] := by
  cbv

theorem ready_sampleClash : Ready sampleClashRoom ⟨.working, ["o"]⟩
    (samplePlan.artifacts ++ [Artifact.ofClass (sampleClass "z" "c-d.graphqls")]) := by
  intro a ha
  fin_cases ha
  all_goals exact ⟨[], by cbv⟩

theorem run_sampleClash :
    ((run (sample "z.graphqls")).on sampleClash).outcome =
      .error (.notIdentifier "class" "C-dFetcher") ∧
    marks ((run (sample "z.graphqls")).on sampleClash).events =
      story [] (samplePlan.history ⟨.working, ["o"]⟩) ++
        Event.processing (sampleFile ["c-d.graphqls"]) :: [sampleClassTarget].map Event.wrote := by
  have hb : isPackageName (sample "z.graphqls").packageName = true := by decide
  have hroom : sampleClashRoom.WellFormed := by decide
  have hfiles : schemaFiles (sample "z.graphqls") sampleClash =
      .ok ([sampleFile ["a.graphqls"], sampleFile ["b.graphqls"]] ++
        [sampleFile ["c-d.graphqls"]]) := by
    cbv
  have hpending : Pending sampleClash []
      ([sampleFile ["a.graphqls"], sampleFile ["b.graphqls"]] ++ [sampleFile ["c-d.graphqls"]]) :=
    .of_discover sampleClash_wellFormed hfiles
  obtain ⟨hfirst, hlast⟩ := hpending.split
  have hstart : Reached (sample "z.graphqls") sampleClash [] [] sampleClash :=
    .start sampleClash_wellFormed
  obtain ⟨u, hsteps, hreached, hu⟩ := steps_within hstart sampleClash_within sampleClash_wellFormed
    hroom hb hfirst planned_sampleClash fun a ha => ready_sampleClash a (List.mem_append_left _ ha)
  have hstory := marks_steps hstart sampleClash_wellFormed hb hfirst planned_sampleClash
    hsteps.outcome
  have hdoc : document sampleClash (sampleFile ["c-d.graphqls"]) = .ok (sampleType "z") := by cbv
  have hready : Ready sampleClashRoom ⟨.working, ["o"]⟩
      ([sampleClass "z" "c-d.graphqls"].map .ofClass) :=
    fun a ha => ready_sampleClash a (List.mem_append_right _ ha)
  obtain ⟨v, hwrite, -⟩ :=
    writeArtifacts_within hu hreached.stored.wrote.wellFormed hroom hready
  rw [List.mapM_map] at hwrite
  have hthen := hreached.document_eq sampleClash_wellFormed hb
    (hlast.schemaFile _ List.mem_cons_self)
  have hclasses : (Emission.dataClasses "p" (sampleType "z") (some "c-d.graphqls")).outcome =
      .ok [sampleClass "z" "c-d.graphqls"] := by
    rfl
  have hfetcher : (Emission.fetcher "p" (sampleType "z") "c-d.graphqls").outcome =
      .error (.notIdentifier "class" "C-dFetcher") := by
    rfl
  obtain ⟨hlast, hmarks⟩ := marks_step_of_classes (c := sample "z.graphqls") (hthen.trans hdoc)
    hclasses hwrite hfetcher (.after ⟨.working, ["o"]⟩ samplePlan)
  refine ⟨(run_ends_error hfiles (steps_end_error hsteps hlast [])).outcome, ?_⟩
  rw [marks_run hfiles, List.foldlM_append]
  refine (marks_bind_of_ok hsteps _).trans (congrArg₂ _ hstory ?_)
  rw [List.foldlM_cons]
  refine (marks_bind_of_error hlast _).trans (hmarks.trans ?_)
  cbv

theorem writings_sampleClash : writings ((run (sample "z.graphqls")).on sampleClash).events =
    [(sampleFile ["a.graphqls"], sampleClassTarget),
      (sampleFile ["a.graphqls"], sampleFetcherTarget "AFetcher"),
      (sampleFile ["b.graphqls"], sampleClassTarget),
      (sampleFile ["b.graphqls"], sampleFetcherTarget "BFetcher"),
      (sampleFile ["c-d.graphqls"], sampleClassTarget)] := by
  rw [← writings_marks, run_sampleClash.2, writings_stopped, history_samplePlan]
  rfl

theorem processed_sampleClash : processed ((run (sample "z.graphqls")).on sampleClash).events =
    [sampleFile ["a.graphqls"], sampleFile ["b.graphqls"], sampleFile ["c-d.graphqls"]] := by
  rw [← processed_marks, run_sampleClash.2, processed_stopped, history_samplePlan]
  rfl

theorem overwrites_of_sampleClash : ∃ previous,
    otherWriter? [(sampleFile ["a.graphqls"], sampleClassTarget),
      (sampleFile ["a.graphqls"], sampleFetcherTarget "AFetcher")] (sampleFile ["b.graphqls"])
      sampleClassTarget = some previous ∧
    .overwrites sampleClassTarget (sampleFile ["b.graphqls"]) previous ∈
      ((run (sample "z.graphqls")).on sampleClash).warnings := by
  have hsplit : writings ((run (sample "z.graphqls")).on sampleClash).events =
      [(sampleFile ["a.graphqls"], sampleClassTarget),
        (sampleFile ["a.graphqls"], sampleFetcherTarget "AFetcher")] ++
        (sampleFile ["b.graphqls"], sampleClassTarget) ::
          [(sampleFile ["b.graphqls"], sampleFetcherTarget "BFetcher"),
            (sampleFile ["c-d.graphqls"], sampleClassTarget)] := writings_sampleClash
  rcases overwrites_of_run _ _ hsplit List.mem_cons_self (by decide) with htold | ⟨e, -, hlast⟩
  · exact htold
  · rw [processed_sampleClash] at hlast
    exact absurd hlast (by decide)

/-- The class of the third replaces that of the second, and there is no warning. -/
theorem overwrites_untold :
    writings ((run (sample "z.graphqls")).on sampleClash).events =
      [(sampleFile ["a.graphqls"], sampleClassTarget),
        (sampleFile ["a.graphqls"], sampleFetcherTarget "AFetcher"),
        (sampleFile ["b.graphqls"], sampleClassTarget),
        (sampleFile ["b.graphqls"], sampleFetcherTarget "BFetcher"),
        (sampleFile ["c-d.graphqls"], sampleClassTarget)] ∧
    ∀ previous, .overwrites sampleClassTarget (sampleFile ["c-d.graphqls"]) previous ∉
      ((run (sample "z.graphqls")).on sampleClash).warnings := by
  refine ⟨writings_sampleClash, fun previous hwarning => ?_⟩
  have hsource := source_of_warning _ _ run_sampleClash.1 hwarning
  rw [processed_sampleClash] at hsource
  exact absurd hsource (by decide)

end SchemaToJava.Generation
