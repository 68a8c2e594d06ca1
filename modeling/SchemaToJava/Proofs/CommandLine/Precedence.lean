import SchemaToJava.Proofs.CommandLine.Commands
import SchemaToJava.Proofs.Config.Fields

/-!
Options over configuration files. An option stands in for all that a file says about its field,
under whichever key, and for nothing else; so what a file says about fields that have an option
never matters.
-/

namespace SchemaToJava

def Report.preceded {α : Type} (r : Report α) (more : List Output) : Report α :=
  { r with outputs := more ++ r.outputs }

namespace CommandLine

open Config

/-- The setting that an option gives for a field. -/
def GenerateOptions.given (o : GenerateOptions) : Field → Option Setting
  | .schemaDir => o.schemaDir.map .path
  | .outputDir => o.outputDir.map .path
  | .packageName => o.packageName.map .ofText
  | .excludeFiles => o.excludeFiles.map .ofText

theorem lookup_optional {α : Type} (x : Option α) (setting : α → Setting) (k key : String) :
    (x.map fun a => (k, setting a)).toList.reverse.lookup key =
      if key = k then x.map setting else none := by
  cases x with
  | none => simp
  | some a => by_cases h : key = k <;> simp [List.lookup_cons, h, beq_eq_false_iff_ne.mpr]

namespace GenerateOptions

variable (o : GenerateOptions) (s : Settings) (f : Field)

theorem lookup_settings : o.settings.reverse.lookup f.keys.key = o.given f ∧
    o.settings.reverse.lookup f.keys.otherKey = none := by
  unfold settings
  simp only [List.reverse_append, List.lookup_append, lookup_optional]
  cases f <;> simp [Field.keys, schemaDirKeys, outputDirKeys, packageNameKeys, excludeFilesKeys,
    given]

/-- An option is found before anything that a file says about its field. -/
theorem find?_over : f.keys.find? (o.over s) =
    ((o.given f).map (f.keys.key, ·)).or (f.keys.find? s) := by
  obtain ⟨hkey, hother⟩ := o.lookup_settings f
  unfold FieldKeys.find? GenerateOptions.over
  rw [Entries.lookup_putAll, Entries.lookup_putAll, hkey, hother]
  cases o.given f with
  | none => rfl
  | some v => rfl

variable {o s f} {o' : GenerateOptions} {s' : Settings}

theorem checked_over_of_given {v : Setting} (h : o.given f = some v) (h' : o'.given f = some v) :
    f.checked (o.over s) = f.checked (o'.over s') := by
  refine Field.checked_congr ?_
  rw [find?_over, find?_over, h, h']
  rfl

theorem checked_over_of_not_given (h : o.given f = none) : f.checked (o.over s) = f.checked s := by
  refine Field.checked_congr ?_
  rw [find?_over, h]
  rfl

/-- Two files that agree on the fields without an option. -/
def Agree (o : GenerateOptions) (s s' : Settings) : Prop :=
  ∀ f, o.given f = none → f.keys.find? s = f.keys.find? s'

theorem Agree.checked_eq (h : o.Agree s s') (f : Field) :
    f.checked (o.over s) = f.checked (o.over s') := by
  cases hgiven : o.given f with
  | none =>
    rw [checked_over_of_not_given hgiven, checked_over_of_not_given hgiven]
    exact Field.checked_congr (h f hgiven)
  | some v => exact checked_over_of_given hgiven hgiven

theorem Agree.build_eq (h : o.Agree s s') : build (o.over s) = build (o.over s') := by
  rw [build, build, ofSettings_congr_checked h.checked_eq]

end GenerateOptions

variable {t : FileTree} {p p' : Path} {d d' : Yaml.Document} {o : GenerateOptions}

/-- Loading a file tells of nothing else. -/
theorem exists_load_on (h : loaded t p = .ok d) : ∃ es, (∀ e ∈ es, e = .event (.loadedConfig p)) ∧
    (load p).on t = ⟨.ok d, es, .ofFiles t⟩ := by
  unfold loaded at h
  cases hread : t.read p with
  | error e =>
    rw [hread] at h
    cases h
  | ok bytes =>
    rw [hread] at h
    have hdocument : Prod.fst <$> documentOf p bytes = .ok d := h
    cases hfound : documentOf p bytes with
    | error f =>
      rw [hfound] at hdocument
      cases hdocument
    | ok found =>
      obtain ⟨d', hasEntries⟩ := found
      rw [hfound] at hdocument
      cases hdocument
      refine ⟨if hasEntries then [.event (.loadedConfig p)] else [], ?_, ?_⟩
      · cases hasEntries <;> simp
      · simp only [load, Run.on, Run.bind_apply, Run.inspect, Workspace.ofFiles, hread,
          Run.orFault, Run.pure_apply, hfound, id]
        cases hasEntries <;> rfl

theorem exitCode_on_bind {α : Type} {x : Run α} {a : α} {es : List Output}
    (h : x.on t = ⟨.ok a, es, .ofFiles t⟩) (f : α → Run Unit) :
    (exitCode (x >>= f)).on t = ((exitCode (f a)).on t).preceded es := by
  unfold Run.on at h ⊢
  unfold exitCode Run.recover
  simp only [Run.bind_apply, h]
  cases (f a (.ofFiles t)).outcome with
  | ok _ => simp [Report.preceded]
  | error e => simp [Report.preceded]

def GenerateOptions.withFile (o : GenerateOptions) (p : Path) : GenerateOptions :=
  { o with configFile := some p }

theorem exists_generate_on (console : Console) (h : loaded t p = .ok d) :
    ∃ es, (∀ e ∈ es, e = .event (.loadedConfig p)) ∧ (generate console (o.withFile p)).on t =
      ((exitCode (generation console (o.over (.ofDocument d)))).on t).preceded es := by
  obtain ⟨es, hes, hload⟩ := exists_load_on h
  refine ⟨es, hes, ?_⟩
  have hsettings : (Settings.ofDocument <$> load p).on t =
      ⟨.ok (Settings.ofDocument d), es, .ofFiles t⟩ := by
    unfold Run.on at hload ⊢
    rw [← bind_pure_comp, Run.bind_apply, hload]
    simp
  exact exitCode_on_bind hsettings fun fromFile => generation console (o.over fromFile)

/-- An option is all that counts for its field, and a file counts for the fields without an option
only. So two files that agree on those make the same configuration or have the same problems, and
the command does the same with either of them, but for a note of the file. -/
theorem options_over_files (console : Console) (o : GenerateOptions) :
    (∀ (s : Settings) (f : Field),
      (∀ v, o.given f = some v → f.keys.find? (o.over s) = some (f.keys.key, v) ∧
        ∀ (o' : GenerateOptions) (s' : Settings), o'.given f = some v →
          f.checked (o'.over s') = f.checked (o.over s)) ∧
      (o.given f = none →
        f.keys.find? (o.over s) = f.keys.find? s ∧ f.checked (o.over s) = f.checked s)) ∧
    (∀ s s', o.Agree s s' →
      ofSettings (o.over s) = ofSettings (o.over s') ∧ build (o.over s) = build (o.over s')) ∧
    ∀ t p p' d d', loaded t p = .ok d → loaded t p' = .ok d' →
      o.Agree (.ofDocument d) (.ofDocument d') → ∃ (r : Report Nat) (es es' : List Output),
        (∀ e ∈ es, e = .event (.loadedConfig p)) ∧ (∀ e ∈ es', e = .event (.loadedConfig p')) ∧
        (generate console (o.withFile p)).on t = r.preceded es ∧
        (generate console (o.withFile p')).on t = r.preceded es' := by
  refine ⟨fun s f => ⟨fun v hv => ⟨?_, fun o' s' hv' => ?_⟩, fun hnone => ⟨?_, ?_⟩⟩,
    fun s s' hagree => ⟨?_, ?_⟩, fun t p p' d d' hp hp' hagree => ?_⟩
  · rw [GenerateOptions.find?_over, hv]
    rfl
  · exact GenerateOptions.checked_over_of_given hv' hv
  · rw [GenerateOptions.find?_over, hnone]
    rfl
  · exact GenerateOptions.checked_over_of_not_given hnone
  · exact ofSettings_congr_checked hagree.checked_eq
  · exact hagree.build_eq
  · obtain ⟨es, hes, hrun⟩ := exists_generate_on (o := o) console hp
    obtain ⟨es', hes', hrun'⟩ := exists_generate_on (o := o) console hp'
    have hsame : generation console (o.over (.ofDocument d)) =
        generation console (o.over (.ofDocument d')) := by
      rw [generation, generation, hagree.build_eq]
    exact ⟨_, es, es', hes, hes', hrun, hsame ▸ hrun'⟩

def sampleOptions : GenerateOptions := ⟨some ⟨.working, ["s"]⟩, none, some "1", none, none⟩

def sampleFileSettings (schemaDir packageName : String × Setting) : Settings :=
  [schemaDir, ("output_dir", .ofText "o"), packageName, ("excludeFiles", .value .null)]

theorem options_over_files_sample :
    sampleOptions.Agree
      (sampleFileSettings ("schema_dir", .ofText "t") ("packageName", .value (.int 1)))
      (sampleFileSettings ("schemaDir", .ofText "") ("package_name", .ofText "p")) ∧
    ofSettings (sampleOptions.over
      (sampleFileSettings ("schema_dir", .ofText "t") ("packageName", .value (.int 1)))) =
      .error [⟨"packageName", .notPackageName "1"⟩] ∧
    ofSettings (sampleOptions.over
      (sampleFileSettings ("schemaDir", .ofText "") ("package_name", .ofText "p"))) =
      .error [⟨"packageName", .notPackageName "1"⟩] := by
  have hagree : sampleOptions.Agree
      (sampleFileSettings ("schema_dir", .ofText "t") ("packageName", .value (.int 1)))
      (sampleFileSettings ("schemaDir", .ofText "") ("package_name", .ofText "p")) := by
    intro f hf
    cases f with
    | schemaDir => cases hf
    | outputDir => rfl
    | packageName => cases hf
    | excludeFiles => rfl
  have hproblem : ofSettings (sampleOptions.over
      (sampleFileSettings ("schema_dir", .ofText "t") ("packageName", .value (.int 1)))) =
      .error [⟨"packageName", .notPackageName "1"⟩] := by
    cbv
  obtain ⟨hsame, -⟩ := (options_over_files .styled sampleOptions).2.1 _ _ hagree
  exact ⟨hagree, hproblem, hsame ▸ hproblem⟩

end CommandLine

end SchemaToJava
