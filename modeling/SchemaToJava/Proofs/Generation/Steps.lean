import SchemaToJava.Proofs.Generation.Writing

/-!
Schema files one after another. While all goes well, the ledger, the notices and the files are those
that the plan tells, and what has been written never comes between a schema file and its document.
-/

namespace SchemaToJava.Generation

open Java SchemaFile

theorem record_ends_new {l : Ledger} {file : Path} (h : l.lookup file = none) (source : Path)
    (t : FileTree) : (l.record source file).Ends t (.ok (l.put file source)) [] t := by
  unfold Ledger.record
  rw [h]
  exact Run.Ends.pure _ t

theorem record_ends_again {l : Ledger} {file previous source : Path}
    (h : l.lookup file = some previous) (hne : previous ≠ source) (t : FileTree) :
    (l.record source file).Ends t (.ok (l.put file source))
      [.overwrites file source previous] t := by
  unfold Ledger.record
  rw [h]
  simp only [bne_iff_ne, ne_eq, hne, not_false_eq_true, if_true]
  exact (Run.Ends.note rfl t).bind (Run.Ends.pure _ t)

theorem records_end (l : Ledger) (source : Path) {files : List Path} (hn : files.Nodup)
    (hnew : ∀ file ∈ files, l.lookup file ≠ some source) (t : FileTree) :
    (files.foldlM (fun (l : Ledger) file => l.record source file) l).Ends t
      (.ok (l.enterAll source files))
      (files.filterMap fun file => (l.lookup file).map (.overwrites file source)) t := by
  induction files generalizing l with
  | nil => exact Run.Ends.pure l t
  | cons file rest ih =>
    rw [List.nodup_cons] at hn
    have hkept : ∀ other ∈ rest, (l.put file source).lookup other = l.lookup other := by
      intro other hother
      rw [Entries.lookup_put, if_neg]
      rintro rfl
      exact hn.1 hother
    have hrest := ih (l.put file source) hn.2 fun other hother => by
      rw [hkept other hother]
      exact hnew other (List.mem_cons_of_mem _ hother)
    have hnotices : (rest.filterMap fun other =>
        ((l.put file source).lookup other).map (Event.overwrites other source)) =
        rest.filterMap fun other => (l.lookup other).map (Event.overwrites other source) :=
      List.filterMap_congr fun other hother => by rw [hkept other hother]
    rw [hnotices] at hrest
    rw [List.foldlM_cons]
    cases hold : l.lookup file with
    | none =>
      rw [List.filterMap_cons_none (by simp [hold])]
      exact (record_ends_new hold source t).bind hrest
    | some previous =>
      rw [List.filterMap_cons_some (b := .overwrites file source previous) (by simp [hold])]
      have hne : previous ≠ source := fun heq => hnew file (by simp) (heq ▸ hold)
      exact (record_ends_again hold hne t).bind hrest

theorem Plan.mem_of_latest? {p : Plan} {out file source : Path}
    (h : p.latest? out file = some source) : source ∈ p.map (·.1) := by
  obtain ⟨e, he, rfl⟩ := Option.map_eq_some_iff.mp h
  exact List.mem_map.mpr ⟨e, List.mem_reverse.mp (List.mem_of_find?_eq_some he), rfl⟩

section Planned

variable {c : Config} {t : FileTree}

theorem planned_iff {files : List Path} {p : Plan} :
    planned c t files = .ok p ↔
      List.Forall₂ (fun file e => e.1 = file ∧ generated c t file = .ok e.2) files p := by
  unfold planned
  rw [Outcome.mapM_eq_ok_iff]
  have hitem : ∀ (file : Path) (e : Path × List Artifact),
      (do return (file, ← generated c t file) : Except Fault (Path × List Artifact)) = .ok e ↔
        e.1 = file ∧ generated c t file = .ok e.2 := by
    rintro file ⟨source, as⟩
    rw [Outcome.bind_eq_ok_iff]
    constructor
    · rintro ⟨as, has, h⟩
      cases h
      exact ⟨rfl, has⟩
    · rintro ⟨rfl, has⟩
      exact ⟨as, has, rfl⟩
  simp only [hitem]

theorem sources_of_planned {files : List Path} {p : Plan} (h : planned c t files = .ok p) :
    p.map (·.1) = files := by
  have hall := planned_iff.mp h
  clear h
  induction hall with
  | nil => rfl
  | cons he _ ih => rw [List.map_cons, he.1, ih]

theorem planned_concat {files : List Path} {p : Plan} (h : planned c t files = .ok p)
    {file : Path} {as : List Artifact} (has : generated c t file = .ok as) :
    planned c t (files ++ [file]) = .ok (p ++ [(file, as)]) := by
  rw [planned_iff] at h ⊢
  exact List.rel_append h (.cons ⟨rfl, has⟩ .nil)

theorem planned_append {xs ys : List Path} {p : Plan} (h : planned c t (xs ++ ys) = .ok p) :
    ∃ q r, p = q ++ r ∧ planned c t xs = .ok q ∧ planned c t ys = .ok r := by
  rw [planned, List.mapM_append] at h
  obtain ⟨q, hq, h⟩ := Outcome.bind_eq_ok_iff.mp h
  obtain ⟨r, hr, h⟩ := Outcome.bind_eq_ok_iff.mp h
  cases h
  exact ⟨q, r, rfl, hq, hr⟩

theorem planned_cons {file : Path} {rest : List Path} {p : Plan}
    (h : planned c t (file :: rest) = .ok p) :
    ∃ as q, p = (file, as) :: q ∧ generated c t file = .ok as ∧ planned c t rest = .ok q := by
  obtain ⟨⟨_, as⟩, q, ⟨rfl, has⟩, hq, rfl⟩ := List.forall₂_cons_left_iff.mp (planned_iff.mp h)
  exact ⟨as, q, rfl, has, planned_iff.mpr hq⟩

theorem generated_of_planned {files : List Path} {p : Plan} (h : planned c t files = .ok p)
    {e : Path × List Artifact} (he : e ∈ p) : e.1 ∈ files ∧ generated c t e.1 = .ok e.2 := by
  obtain ⟨file, hfile, rfl, has⟩ := Outcome.exists_of_forall₂ (planned_iff.mp h) he
  exact ⟨hfile, has⟩

theorem generated_eq_ok_iff {file : Path} {as : List Artifact} :
    generated c t file = .ok as ↔ ∃ doc, document t file = .ok doc ∧
      Emission.artifacts c.packageName doc file.name = .ok as :=
  Outcome.bind_eq_ok_iff

theorem generated_parts {file : Path} {as : List Artifact} (h : generated c t file = .ok as) :
    ∃ doc classes i, document t file = .ok doc ∧
      (Emission.dataClasses c.packageName doc (some file.name)).outcome = .ok classes ∧
      (Emission.fetcher c.packageName doc file.name).outcome = .ok i ∧
      as = classes.map .ofClass ++ [.ofInterface i] := by
  obtain ⟨doc, hdoc, has⟩ := generated_eq_ok_iff.mp h
  obtain ⟨classes, i, hclasses, hi, heq⟩ := Emission.artifacts_eq_ok_iff.mp has
  exact ⟨doc, classes, i, hdoc, hclasses, hi, heq⟩

theorem legal_of_generated (hb : isPackageName c.packageName = true) {file : Path}
    {as : List Artifact} (h : generated c t file = .ok as) {a : Artifact} (ha : a ∈ as) :
    a.Legal := by
  obtain ⟨doc, -, has⟩ := generated_eq_ok_iff.mp h
  exact Emission.legal_artifacts hb has ha

theorem legal_of_planned (hb : isPackageName c.packageName = true) {files : List Path}
    {p : Plan} (h : planned c t files = .ok p) {a : Artifact} (ha : a ∈ p.artifacts) :
    a.Legal := by
  obtain ⟨e, he, ha⟩ := List.mem_flatMap.mp ha
  exact legal_of_generated hb (generated_of_planned h he).2 ha

end Planned

theorem hasEnding_placeOf {t : FileTree} (ht : t.WellFormed) {a : Artifact} (ha : a.Legal)
    (out : Path) : hasEnding Emission.schemaFileEnding (t.placeOf (a.path out)) = false := by
  rw [ha.placeOf_eq ht, ← List.append_assoc]
  unfold hasEnding
  rw [List.getLast?_concat, Option.getD_some, toList_fileName, Bool.eq_false_iff]
  intro h
  have hlast := (List.isSuffixOf_iff_suffix.mp h).getLast (by decide)
  rw [List.getLast_append_of_ne_nil _ (by simp)] at hlast
  exact absurd hlast (by decide)

/-- Nothing that is generated goes where a schema file is. -/
theorem hasEnding_of_mem_places {t : FileTree} (ht : t.WellFormed) {as : List Artifact}
    (hlegal : ∀ a ∈ as, a.Legal) (out : Path) {l : Location}
    (hl : l ∈ (as.map fun a => (t.placeOf (a.path out), Text.Utf8.encode a.render)).map (·.1)) :
    hasEnding Emission.schemaFileEnding l = false := by
  rw [List.map_map] at hl
  obtain ⟨a, ha, rfl⟩ := List.mem_map.mp hl
  exact hasEnding_placeOf ht (hlegal a ha) out

/-- How far the run has come: the plan for the schema files taken so far, all of which is stored. -/
structure Reached (c : Config) (t : FileTree) (taken : List Path) (p : Plan) (u : FileTree) :
    Prop where
  planned : planned c t taken = .ok p
  stored : Stored t c.outputDir p.artifacts u

/-- The schema files that the run has yet to take: files of the tree, none of them twice and none
that it has taken already. -/
structure Pending (t : FileTree) (taken files : List Path) : Prop where
  schemaFile : ∀ file ∈ files, IsSchemaFile t file
  nodup : (taken ++ files).Nodup

namespace Pending

variable {t : FileTree} {taken files : List Path}

theorem start (hfiles : ∀ file ∈ files, IsSchemaFile t file) (hn : files.Nodup) :
    Pending t [] files :=
  ⟨hfiles, hn⟩

theorem of_discover (ht : t.WellFormed) {directory : Path} {exclude : List String}
    (h : ((discover directory exclude).on t).outcome = .ok files) : Pending t [] files :=
  .start (fun _ => isSchemaFile_of_discover ht h) (nodup_discover ht h)

theorem split {first rest : List Path} (h : Pending t taken (first ++ rest)) :
    Pending t taken first ∧ Pending t (taken ++ first) rest := by
  have hn := h.nodup
  rw [← List.append_assoc] at hn
  refine ⟨⟨fun file hfile => ?_, hn.of_append_left⟩, ⟨fun file hfile => ?_, hn⟩⟩
  · exact h.schemaFile file (List.mem_append_left rest hfile)
  · exact h.schemaFile file (List.mem_append_right first hfile)

theorem next {file : Path} (h : Pending t taken (file :: files)) :
    IsSchemaFile t file ∧ file ∉ taken ∧ Pending t (taken ++ [file]) files := by
  have hone : Pending t taken ([file] ++ files) := h
  obtain ⟨hfirst, hrest⟩ := hone.split
  refine ⟨hfirst.schemaFile file List.mem_cons_self, fun hmem => ?_, hrest⟩
  exact (List.nodup_append.mp hfirst.nodup).2.2 file hmem file List.mem_cons_self rfl

theorem perm (h : Pending t taken files) {others : List Path} (hperm : files.Perm others) :
    Pending t taken others where
  schemaFile := fun file hfile => h.schemaFile file (hperm.mem_iff.mpr hfile)
  nodup := (hperm.append_left taken).nodup_iff.mp h.nodup

end Pending

section Steps

variable {c : Config} {t u : FileTree} {taken : List Path} {p : Plan}

theorem Reached.start (ht : t.WellFormed) : Reached c t [] [] t := ⟨rfl, .of_wrote (.refl ht)⟩

/-- The next schema file holds what it held before the run. -/
theorem Reached.document_eq (h : Reached c t taken p u) (ht : t.WellFormed)
    (hb : isPackageName c.packageName = true) {file : Path} (hfile : IsSchemaFile t file) :
    document u file = document t file := by
  refine hfile.document_eq ht h.stored.wrote fun hmem => ?_
  have hother := hasEnding_of_mem_places ht (fun _ ha => legal_of_planned hb h.planned ha) _ hmem
  rw [hfile.ending ht] at hother
  cases hother

theorem Reached.generated_eq (h : Reached c t taken p u) (ht : t.WellFormed)
    (hb : isPackageName c.packageName = true) {file : Path} (hfile : IsSchemaFile t file) :
    generated c u file = generated c t file := by
  unfold generated
  rw [h.document_eq ht hb hfile]

theorem step_ends_ok (h : Reached c t taken p u) (hb : isPackageName c.packageName = true)
    {file : Path} (hnew : file ∉ taken) {as : List Artifact} (hgen : generated c t file = .ok as)
    {v : FileTree} (hfrom : (fromFile c file).Ends u (.ok (as.map (·.path c.outputDir)))
      [.processing file] v) (hv : Stored u c.outputDir as v) :
    (step c (.after c.outputDir p) file).Ends u (.ok (.after c.outputDir (p ++ [(file, as)])))
        (.processing file :: p.overwrites c.outputDir file as) v ∧
      Reached c t (taken ++ [file]) (p ++ [(file, as)]) v := by
  obtain ⟨doc, -, hemitted⟩ := generated_eq_ok_iff.mp hgen
  have hpaths := Emission.nodup_paths hb hemitted c.outputDir
  have hold : ∀ path ∈ as.map (·.path c.outputDir),
      (Ledger.after c.outputDir p).lookup path ≠ some file := by
    intro path _ hlookup
    rw [Ledger.lookup_after] at hlookup
    have hmem := Plan.mem_of_latest? hlookup
    rw [sources_of_planned h.planned] at hmem
    exact hnew hmem
  have hrecords := records_end _ file hpaths hold v
  rw [List.filterMap_map] at hrecords
  simp only [Function.comp_def, Ledger.lookup_after] at hrecords
  refine ⟨?_, planned_concat h.planned hgen, ?_⟩
  · rw [Ledger.after_concat]
    exact hfrom.bind hrecords
  · rw [Plan.artifacts_append, Plan.artifacts_singleton]
    exact h.stored.trans hv

theorem step_ends (h : Reached c t taken p u) (ht : t.WellFormed)
    (hb : isPackageName c.packageName = true) {file : Path} (hfile : IsSchemaFile t file)
    (hnew : file ∉ taken) :
    (∃ as v, (step c (.after c.outputDir p) file).Ends u
        (.ok (.after c.outputDir (p ++ [(file, as)])))
        (.processing file :: p.overwrites c.outputDir file as) v ∧
      Reached c t (taken ++ [file]) (p ++ [(file, as)]) v) ∨
    ∃ e part v, (step c (.after c.outputDir p) file).Ends u (.error e) [.processing file] v ∧
      Stop c t file e part ∧ Stored t c.outputDir (p.artifacts ++ part) v := by
  rcases fromFile_ends h.stored.wrote.wellFormed c file with
    ⟨as, v, has, hfrom, hv⟩ | ⟨e, part, v, hstop, hfrom, hv⟩
  · have hgen := (h.generated_eq ht hb hfile).symm.trans has
    exact .inl ⟨as, v, step_ends_ok h hb hnew hgen hfrom hv⟩
  · exact .inr ⟨e, part, v, hfrom.bind_error _, hstop.of_document_eq (h.document_eq ht hb hfile),
      h.stored.trans hv⟩

theorem steps_end_error {t u v : FileTree} {l m : Ledger} {before : List Path} {es fs : List Event}
    (h : (before.foldlM (step c) l).Ends t (.ok m) es u) {file : Path} {e : Fault}
    (hstep : (step c m file).Ends u (.error e) fs v) (after : List Path) :
    ((before ++ file :: after).foldlM (step c) l).Ends t (.error e) (es ++ fs) v := by
  rw [List.foldlM_append]
  exact h.bind (hstep.bind_error _)

/-- Taking schema files either goes through or stops at one of them. -/
theorem steps_end (h : Reached c t taken p u) (ht : t.WellFormed)
    (hb : isPackageName c.packageName = true) {files : List Path} (hfiles : Pending t taken files) :
    (∃ q v, (files.foldlM (step c) (.after c.outputDir p)).Ends u
        (.ok (.after c.outputDir (p ++ q))) (p.notices c.outputDir q) v ∧
      Reached c t (taken ++ files) (p ++ q) v) ∨
    ∃ before file after q e part v, files = before ++ file :: after ∧
      (files.foldlM (step c) (.after c.outputDir p)).Ends u (.error e)
        (p.notices c.outputDir q ++ [.processing file]) v ∧
      planned c t (taken ++ before) = .ok (p ++ q) ∧ Stop c t file e part ∧
      Stored t c.outputDir ((p ++ q).artifacts ++ part) v := by
  -- `Reached` and `Pending` are what one schema file hands on to the next.
  induction files generalizing taken p u with
  | nil =>
    refine .inl ⟨[], u, ?_, ?_⟩
    · rw [List.append_nil]
      exact Run.Ends.pure _ u
    · simpa using h
  | cons file rest ih =>
    obtain ⟨hfile, hnew, hpending⟩ := hfiles.next
    rw [List.foldlM_cons]
    rcases step_ends h ht hb hfile hnew with
      ⟨as, v, hstep, hv⟩ | ⟨e, part, v, hstep, hstop, hv⟩
    · rcases ih hv hpending with
        ⟨q, w, hrest, hw⟩ | ⟨before, g, after, q, e, part, w, rfl, hrest, hplan, hstop, hw⟩
      · rw [List.append_assoc] at hrest
        exact .inl ⟨(file, as) :: q, w, hstep.bind hrest, by simpa using hw⟩
      · refine .inr ⟨file :: before, g, after, (file, as) :: q, e, part, w, rfl, ?_, ?_, hstop, ?_⟩
        · rw [Plan.notices, List.append_assoc]
          exact hstep.bind hrest
        · simpa using hplan
        · simpa using hw
    · refine .inr ⟨[], file, rest, [], e, part, v, rfl, hstep.bind_error _, ?_, hstop, ?_⟩
      · simpa using h.planned
      · simpa using hv

end Steps

end SchemaToJava.Generation
