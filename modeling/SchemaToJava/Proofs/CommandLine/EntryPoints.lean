import SchemaToJava.CommandLine.Program
import SchemaToJava.Proofs.CommandLine.Commands
import SchemaToJava.Proofs.Config.Arguments
import SchemaToJava.Proofs.Generation.Room

/-!
Two ways to give the same settings: as options of the generating command, and as arguments of the
form `--key=value`. They come to the same, but for a directory whose text is blank, which is refused
only among the arguments.
-/

namespace SchemaToJava.CommandLine

open Config Text

section Fates

variable {α β : Type} {t u : FileTree} {es : List Event}

/-- How a run ends and what it leaves, whatever it puts out. -/
def fate (x : Run α) (t : FileTree) : Except Fault α × Workspace :=
  ((x.on t).outcome, (x.on t).after)

theorem fate_of_ends {x : Run α} {o : Except Fault α} (h : x.Ends t o es u) :
    fate x t = (o, .ofFiles u) := by
  rw [fate, h.outcome, h.after]

theorem fate_bind {x : Run α} {a : α} (h : x.Ends t (.ok a) es u) (f : α → Run β) :
    fate (x >>= f) t = fate (f a) u := by
  rw [fate, Run.Ends.on_bind_of_ok h.outcome h.after]
  rfl

theorem fate_map (f : α → β) (x : Run α) (t : FileTree) :
    fate (f <$> x) t = ((fate x t).1.map f, (fate x t).2) := by
  rw [← bind_pure_comp, fate, Run.on, Run.bind_apply, fate, Run.on]
  cases (x (.ofFiles t)).outcome <;> rfl

theorem eq_map_of_fate {f : α → β} {x : Run α} {y : Run β} (h : fate y t = fate (f <$> x) t) :
    (y.on t).outcome = (x.on t).outcome.map f ∧ (y.on t).tree = (x.on t).tree := by
  rw [fate_map] at h
  exact ⟨congrArg Prod.fst h, congrArg (·.2.files) h⟩

end Fates

/-- A value that is accepted for an option. -/
def OptionSpec.Accepts (t : FileTree) (o : OptionSpec) (value : String) : Prop :=
  ∀ check ∈ o.check, refusal? t check value = .ok none

section Options

variable {t : FileTree} {c : Option Command} {env : Environment} {p : Parsed} {o : OptionSpec}

theorem look_ends_unset (h : o.check = none) (hset : flagIsSet (stemOf c) env p o = .ok false) :
    (look c env p o).Ends t (.ok none) [] t := by
  rw [look, h, hset]
  exact Run.Ends.pure none t

theorem look_ends_absent {check : Check} (h : o.check = some check)
    (hvalue : valueOf (stemOf c) env p o = none) : (look c env p o).Ends t (.ok none) [] t := by
  rw [look, h, hvalue]
  exact Run.Ends.pure none t

theorem look_ends_accepted {check : Check} (h : o.check = some check) {value : String}
    (hvalue : valueOf (stemOf c) env p o = some value) (haccepts : o.Accepts t value) :
    (look c env p o).Ends t (.ok none) [] t := by
  rw [look, h, hvalue]
  refine (Run.Ends.inspect _ t).bind ?_
  rw [haccepts check h]
  exact (Run.Ends.orFault_ok .file none t).bind (Run.Ends.pure none t)

theorem lookAll_ends {os : List OptionSpec}
    (h : ∀ o ∈ os, (look c env p o).Ends t (.ok none) [] t) :
    (lookAll c env p os).Ends t (.ok none) [] t := by
  induction os with
  | nil => exact Run.Ends.pure none t
  | cons o os ih =>
    exact (h o List.mem_cons_self).bind (ih fun o ho => h o (List.mem_cons_of_mem _ ho))

theorem fate_withOptions {arguments : List String}
    (hparse : parse (optionsOf c) c.isSome arguments = .ok p)
    (hlook : ∀ o ∈ lookOrder (optionsOf c) p, (look c env p o).Ends t (.ok none) [] t)
    (go : Parsed → Run Exit) : fate (withOptions c env arguments go) t = fate (go p) t := by
  rw [withOptions, hparse]
  exact fate_bind (lookAll_ends hlook) _

theorem parse_waiting {options : List OptionSpec} {name argument spelling : String}
    (hdash : argument ≠ "--" ∧ startsWith "-" argument = true ∧ argument ≠ "-")
    (hread : readOption options argument = .ok ⟨[], some (name, spelling)⟩)
    (interspersed : Bool) (value : String) {rest : List String} {p : Parsed}
    (hrest : parse options interspersed rest = .ok p) :
    parse options interspersed (argument :: value :: rest) =
      .ok { p with given := ⟨name, some value⟩ :: p.given } := by
  obtain ⟨hend, hstart, hshort⟩ := hdash
  rw [parse, if_neg hend, if_pos (by simp [hstart, hshort]), hread]
  simp only [hrest, bind, Except.bind, List.nil_append, pure, Except.pure]

end Options

section Generating

variable {console : Console} (s o p e : String)

def asOptions : List String :=
  ["--schemaDir", s, "--outputDir", o, "--packageName", p, "--excludeFiles", e]

def asArguments : List String :=
  ["--schemaDir=" ++ s, "--outputDir=" ++ o, "--packageName=" ++ p, "--excludeFiles=" ++ e]

def parsedOptions : Parsed :=
  ⟨[⟨"schema_dir", some s⟩, ⟨"output_dir", some o⟩, ⟨"package_name", some p⟩,
    ⟨"exclude_files", some e⟩], []⟩

theorem parse_asOptions : parse generateOptions true (asOptions s o p e) =
    .ok (parsedOptions s o p e) := by
  have hschema : readOption generateOptions "--schemaDir" =
      .ok ⟨[], some ("schema_dir", "--schemaDir")⟩ := by rfl
  have houtput : readOption generateOptions "--outputDir" =
      .ok ⟨[], some ("output_dir", "--outputDir")⟩ := by rfl
  have hpackage : readOption generateOptions "--packageName" =
      .ok ⟨[], some ("package_name", "--packageName")⟩ := by rfl
  have hexclude : readOption generateOptions "--excludeFiles" =
      .ok ⟨[], some ("exclude_files", "--excludeFiles")⟩ := by rfl
  have hend : parse generateOptions true [] = .ok ⟨[], []⟩ := by rw [parse]
  exact parse_waiting (by decide) hschema true s (parse_waiting (by decide) houtput true o
    (parse_waiting (by decide) hpackage true p (parse_waiting (by decide) hexclude true e hend)))

theorem lookOrder_parsedOptions : lookOrder generateOptions (parsedOptions s o p e) =
    [helpOption, schemaDirOption, outputDirOption, packageNameOption, excludeFilesOption,
      configFileOption] := by
  rfl

def optionsOfTexts : GenerateOptions :=
  ⟨some (.ofText s), some (.ofText o), some p, some e, none⟩

theorem run_parsedOptions :
    Command.run console .generate [] (parsedOptions s o p e) =
      generate console (optionsOfTexts s o p e) := by
  rfl

theorem look_parsedOptions {t : FileTree} (hs : schemaDirOption.Accepts t s)
    (ho : outputDirOption.Accepts t o) :
    ∀ option ∈ lookOrder generateOptions (parsedOptions s o p e),
      (look (some .generate) [] (parsedOptions s o p e) option).Ends t (.ok none) [] t := by
  have hany : ∀ {option : OptionSpec} {value : String}, option.check = some .anyText →
      option.Accepts t value := by
    intro option value h check hcheck
    rw [h] at hcheck
    cases hcheck
    rfl
  rw [lookOrder_parsedOptions]
  simp only [List.forall_mem_cons, List.not_mem_nil, false_implies, implies_true, and_true]
  refine ⟨look_ends_unset rfl rfl, look_ends_accepted rfl rfl hs, look_ends_accepted rfl rfl ho,
    look_ends_accepted rfl rfl (hany rfl), look_ends_accepted rfl rfl (hany rfl),
    look_ends_absent rfl rfl⟩

theorem fate_start {t : FileTree} (hs : schemaDirOption.Accepts t s)
    (ho : outputDirOption.Accepts t o) :
    fate (Command.generate.start console [] (asOptions s o p e)) t =
      fate (Exit.code <$> generate console (optionsOfTexts s o p e)) t := by
  rw [← run_parsedOptions, Command.start,
    fate_withOptions (c := some .generate) (parse_asOptions s o p e)
      (look_parsedOptions s o p e hs ho)]
  rfl

theorem look_commonOptions (t : FileTree) (rest : List String) :
    ∀ option ∈ lookOrder commonOptions ⟨[], rest⟩,
      (look none [] ⟨[], rest⟩ option).Ends t (.ok none) [] t := by
  have horder : lookOrder commonOptions ⟨[], rest⟩ =
      [versionOption, helpOption, levelOption, logFileOption] := by
    rfl
  have hlevel : levelOption.Accepts t "INFO" := by
    intro check hcheck
    cases hcheck
    rfl
  rw [horder]
  simp only [List.forall_mem_cons, List.not_mem_nil, false_implies, implies_true, and_true]
  exact ⟨look_ends_unset rfl rfl, look_ends_unset rfl rfl, look_ends_accepted rfl rfl hlevel,
    look_ends_absent rfl rfl⟩

theorem fate_program {t : FileTree} (time : String) (hs : schemaDirOption.Accepts t s)
    (ho : outputDirOption.Accepts t o) :
    fate (program console time [] ("generate" :: asOptions s o p e)) t =
      fate (Exit.code <$> generate console (optionsOfTexts s o p e)) t := by
  have hparse : parse commonOptions false ("generate" :: asOptions s o p e) =
      .ok ⟨[], "generate" :: asOptions s o p e⟩ := by
    rw [parse]
    rfl
  refine (fate_withOptions (c := none) hparse (look_commonOptions t _) _).trans ?_
  exact fate_start s o p e hs ho

end Generating

theorem keyValue?_lead {lead key : String} (hdash : key.toList.head? ≠ some '-')
    (hequals : '=' ∉ key.toList) (hlead : lead.toList = '-' :: '-' :: key.toList ++ ['='])
    (value : String) : keyValue? (lead ++ value) = some (key, value) := by
  have hargument : lead ++ value = asArgument (key, value) :=
    String.toList_injective (by simp [asArgument, hlead])
  rw [hargument]
  exact keyValue?_of_assigns (assigns_asArgument ⟨hequals, hdash⟩ value)

/-- Settings of two directories, with texts for the package name and the names to leave out. -/
def settingsOf (schemaDir outputDir : Setting) (p e : String) : Settings :=
  [("schemaDir", schemaDir), ("outputDir", outputDir), ("packageName", .ofText p),
    ("excludeFiles", .ofText e)]

section Settings

variable {console : Console} {s o p e : String}

theorem argumentSettings_asArguments : argumentSettings (asArguments s o p e) =
    settingsOf (.ofText s) (.ofText o) p e := by
  have hschema : keyValue? ("--schemaDir=" ++ s) = some ("schemaDir", s) :=
    keyValue?_lead (by decide) (by decide) (by decide) s
  have houtput : keyValue? ("--outputDir=" ++ o) = some ("outputDir", o) :=
    keyValue?_lead (by decide) (by decide) (by decide) o
  have hpackage : keyValue? ("--packageName=" ++ p) = some ("packageName", p) :=
    keyValue?_lead (by decide) (by decide) (by decide) p
  have hexclude : keyValue? ("--excludeFiles=" ++ e) = some ("excludeFiles", e) :=
    keyValue?_lead (by decide) (by decide) (by decide) e
  rw [argumentSettings, ofArguments, asArguments]
  simp only [List.filterMap_cons, hschema, houtput, hpackage, hexclude, List.filterMap_nil]
  rfl

theorem generateFromArguments_asArguments : generateFromArguments console (asArguments s o p e) =
    exitCode (generation console (settingsOf (.ofText s) (.ofText o) p e)) := by
  rw [← argumentSettings_asArguments]
  rfl

theorem generate_optionsOfTexts : generate console (optionsOfTexts s o p e) =
    exitCode (generation console (settingsOf (.path (.ofText s)) (.path (.ofText o)) p e)) := by
  rfl

theorem required_schemaDir (a b : Setting) : required schemaDirKeys checkPath (settingsOf a b p e) =
    (checkPath a).mapError (Problem.mk "schemaDir") := by
  rfl

theorem required_outputDir (a b : Setting) : required outputDirKeys checkPath (settingsOf a b p e) =
    (checkPath b).mapError (Problem.mk "outputDir") := by
  rfl

theorem required_packageName (a b : Setting) :
    required packageNameKeys checkPackageName (settingsOf a b p e) =
      (checkPackageName (.ofText p)).mapError (Problem.mk "packageName") := by
  rfl

theorem ofSettings_settingsOf_congr {a a' b b' : Setting} (ha : checkPath a = checkPath a')
    (hb : checkPath b = checkPath b') :
    ofSettings (settingsOf a b p e) = ofSettings (settingsOf a' b' p e) := by
  refine ofSettings_congr ?_ ?_ rfl rfl
  · rw [required_schemaDir, required_schemaDir, ha]
  · rw [required_outputDir, required_outputDir, hb]

theorem generation_congr {x y : Config.Settings} (h : ofSettings x = ofSettings y) :
    generation console x = generation console y := by
  rw [generation, generation, build, build, h]

theorem checkPath_of_not_blank (h : isBlankText s = false) :
    checkPath (.ofText s) = checkPath (.path (.ofText s)) := by
  rw [checkPath_ofText, h]
  rfl

/-- Settings that make no configuration are reported, and no file is touched. -/
theorem exitCode_generation_refused {a b : Setting} {problems : List Problem}
    (h : ofSettings (settingsOf a b p e) = .error problems) (t : FileTree) :
    (exitCode (generation console (settingsOf a b p e))).Ends t (.ok 1)
      [.failed (.configuration problems)] t := by
  have hordinary : ∀ halves, ¬ NamesHalves (settingsOf a b p e) halves := by
    rintro halves ⟨key, name, hfind, hname⟩
    cases hfind
    rw [Wide.ofString, ordinary_trim_ofChars] at hname
    cases hname
  have hfault : faultOf problems = .configuration problems := by
    rcases faultOf_of_ofSettings h with hfault | ⟨halves, hhalves, -⟩
    · exact hfault
    · exact absurd hhalves (hordinary halves)
  have hends : (generation console (settingsOf a b p e)).Ends t _ [] t :=
    generation_ends_problems h t
  rw [hfault] at hends
  exact exitCode_ends_reported rfl hends

def blankDirectory (k : FieldKeys) : Problem := ⟨k.key, .blankPath⟩

theorem refused_of_blank (h : isBlankText s = true ∨ isBlankText o = true) : ∃ problems,
    (isBlankText s = true → blankDirectory schemaDirKeys ∈ problems) ∧
    (isBlankText o = true → blankDirectory outputDirKeys ∈ problems) ∧
    ∀ t, (generateFromArguments console (asArguments s o p e)).Ends t (.ok 1)
      [.failed (.configuration problems)] t := by
  have hschema (h : isBlankText s = true) :
      required schemaDirKeys checkPath (settingsOf (.ofText s) (.ofText o) p e) =
        .error (blankDirectory schemaDirKeys) := by
    rw [required_schemaDir, checkPath_ofText, if_pos h]
    rfl
  have houtput (h : isBlankText o = true) :
      required outputDirKeys checkPath (settingsOf (.ofText s) (.ofText o) p e) =
        .error (blankDirectory outputDirKeys) := by
    rw [required_outputDir, checkPath_ofText, if_pos h]
    rfl
  cases hc : ofSettings (settingsOf (.ofText s) (.ofText o) p e) with
  | ok c =>
    rcases h with h | h
    · obtain ⟨_, hproblems, -⟩ := exists_problems (.inl (hschema h))
      cases hc.symm.trans hproblems
    · obtain ⟨_, hproblems, -⟩ := exists_problems (.inr (.inl (houtput h)))
      cases hc.symm.trans hproblems
  | error problems =>
    refine ⟨problems, fun h => ?_, fun h => ?_, fun t => ?_⟩
    · obtain ⟨_, hproblems, hmem⟩ := exists_problems (.inl (hschema h))
      cases hc.symm.trans hproblems
      exact hmem
    · obtain ⟨_, hproblems, hmem⟩ := exists_problems (.inr (.inl (houtput h)))
      cases hc.symm.trans hproblems
      exact hmem
    · rw [generateFromArguments_asArguments]
      exact exitCode_generation_refused hc t

theorem fate_of_packageName (h : Java.isPackageName (trim p) = false) (a b : Setting)
    (t : FileTree) :
    fate (exitCode (generation console (settingsOf a b p e))) t = (.ok 1, .ofFiles t) := by
  have hwrong : required packageNameKeys checkPackageName (settingsOf a b p e) =
      .error ⟨packageNameKeys.key, .notPackageName (trim p)⟩ := by
    rw [required_packageName, checkPackageName_ofText, if_neg (by simp [h])]
    rfl
  obtain ⟨problems, hproblems, -⟩ := exists_problems (.inr (.inr (.inl hwrong)))
  exact fate_of_ends (exitCode_generation_refused hproblems t)

end Settings

/-- The options and the arguments come to the same exit code and the same files, if no directory is
blank or the package name is wrong anyway. A blank directory is refused among the arguments,
whatever files there are, and none is touched. -/
theorem entryPoints_agree {t : FileTree} {s o : String} (hs : schemaDirOption.Accepts t s)
    (ho : outputDirOption.Accepts t o) (console : Console) (p e time : String) :
    (isBlankText s = false ∧ isBlankText o = false ∨ Java.isPackageName (trim p) = false →
      ((program console time [] ("generate" :: asOptions s o p e)).on t).outcome =
        ((generateFromArguments console (asArguments s o p e)).on t).outcome.map .code ∧
      ((program console time [] ("generate" :: asOptions s o p e)).on t).tree =
        ((generateFromArguments console (asArguments s o p e)).on t).tree) ∧
    (isBlankText s = true ∨ isBlankText o = true → ∃ problems,
      (isBlankText s = true → blankDirectory schemaDirKeys ∈ problems) ∧
      (isBlankText o = true → blankDirectory outputDirKeys ∈ problems) ∧
      ∀ u, ((generateFromArguments console (asArguments s o p e)).on u).outcome = .ok 1 ∧
        ((generateFromArguments console (asArguments s o p e)).on u).errors =
          [.failed (.configuration problems)] ∧
        ((generateFromArguments console (asArguments s o p e)).on u).tree = u) := by
  refine ⟨fun h => ?_, fun h => ?_⟩
  · have hfate : fate (program console time [] ("generate" :: asOptions s o p e)) t =
        fate (Exit.code <$> generateFromArguments console (asArguments s o p e)) t := by
      rw [fate_program s o p e time hs ho, fate_map, fate_map, generate_optionsOfTexts,
        generateFromArguments_asArguments]
      rcases h with ⟨hschema, houtput⟩ | hpackage
      · rw [generation_congr (ofSettings_settingsOf_congr (checkPath_of_not_blank hschema)
          (checkPath_of_not_blank houtput))]
      · rw [fate_of_packageName hpackage, fate_of_packageName hpackage]
    exact eq_map_of_fate hfate
  · obtain ⟨problems, hschema, houtput, hends⟩ := refused_of_blank h
    refine ⟨problems, hschema, houtput, fun u => ⟨(hends u).outcome, ?_, (hends u).tree⟩⟩
    rw [Report.errors_eq, (hends u).notices]
    rfl

def sampleHere : FileTree := ⟨[], [(["a.graphqls"], .file (Text.Utf8.encode "scalar X"))]⟩

def sampleHereFile : Path := ⟨.working, ["a.graphqls"]⟩

def sampleHereFetcher : Java.Artifact :=
  .ofInterface ⟨"p.fetchers", "AFetcher", [Emission.component], [], some "a.graphqls"⟩

def sampleHereConfig : Config := ⟨.here, ⟨.working, ["o"]⟩, "p", [.ofString "e"]⟩

def sampleHereRoom : FileTree :=
  ⟨[], ([(["o"], .directory), (["o", "p"], .directory), (["o", "p", "fetchers"], .directory),
    (["o", "p", "fetchers", "AFetcher.java"], .file [])] : List (Location × Entry)) ++
      sampleHere.entries⟩

theorem accepts_schemaDir_sampleHere (value : String) (h : value = "" ∨ value = ".") :
    schemaDirOption.Accepts sampleHere value := by
  intro check hcheck
  cases hcheck
  rcases h with rfl | rfl <;> cbv

theorem accepts_outputDir_sampleHere : outputDirOption.Accepts sampleHere "o" := by
  intro check hcheck
  cases hcheck
  cbv

theorem entryPoints_agree_sampleHere :
    ((program .styled "" [] ("generate" :: asOptions "." "o" "p" "e")).on sampleHere).outcome =
      ((generateFromArguments .styled (asArguments "." "o" "p" "e")).on sampleHere).outcome.map
        .code ∧
    ((program .styled "" [] ("generate" :: asOptions "." "o" "p" "e")).on sampleHere).tree =
      ((generateFromArguments .styled (asArguments "." "o" "p" "e")).on sampleHere).tree :=
  (entryPoints_agree (accepts_schemaDir_sampleHere "." (.inr rfl)) accepts_outputDir_sampleHere
    .styled "p" "e" "").1 (.inl (by decide))

theorem generate_sampleHere :
    ((generate .styled (optionsOfTexts "" "o" "p" "e")).on sampleHere).outcome = .ok 0 := by
  have ht : sampleHere.WellFormed := by decide
  have hfiles : Generation.schemaFiles sampleHereConfig sampleHere = .ok [sampleHereFile] := by cbv
  have hplan : Generation.planned sampleHereConfig sampleHere [sampleHereFile] =
      .ok [(sampleHereFile, [sampleHereFetcher])] := by
    have hdoc : SchemaFile.document sampleHere sampleHereFile =
        .ok ⟨[.typeSystem (.scalar "X")]⟩ := by
      cbv
    exact Generation.planned_iff.mpr (.cons ⟨rfl, Generation.generated_eq_ok_iff.mpr
      ⟨_, hdoc, by rfl⟩⟩ .nil)
  have hready : Generation.Ready sampleHereRoom sampleHereConfig.outputDir [sampleHereFetcher] := by
    intro a ha
    rw [List.mem_singleton.mp ha]
    exact ⟨[], by cbv⟩
  have hwithin : sampleHere.Within sampleHereRoom := .of_append (by decide)
  obtain ⟨u, hsteps, -⟩ := Generation.steps_within (.start ht) hwithin ht (by decide) (by decide)
    (.of_discover ht hfiles) hplan hready
  have hgenerated := Generation.run_ends_ok hfiles hsteps
  have hdirectory : ¬ sampleHereConfig.outputDir.Has '[' := by simp [sampleHereConfig, Path.Has]
  have hopening := objection?_opening (c := sampleHereConfig) (by decide)
    (by simp [sampleHereConfig, Path.here, Path.Has]) hdirectory
  have hsummary := objection?_summary fun p hp hbracket =>
    hdirectory (has_of_written ht (by decide) hgenerated.outcome hp hbracket)
  have hrun : (runGeneration .styled sampleHereConfig).Ends sampleHere _ _ u :=
    runGeneration_ends_ok hgenerated hopening hsummary
  have hc : ofSettings (settingsOf (.path (.ofText "")) (.path (.ofText "o")) "p" "e") =
      .ok sampleHereConfig := by
    cbv
  rw [generate_optionsOfTexts]
  exact (exitCode_ends_ok ((build_ends_ok hc sampleHere).bind hrun)).outcome

/-- A blank schema directory does as an option, for the working directory, and not as an argument.
-/
theorem entryPoints_differ :
    schemaDirOption.Accepts sampleHere "" ∧ outputDirOption.Accepts sampleHere "o" ∧
    ((program .styled "" [] ("generate" :: asOptions "" "o" "p" "e")).on sampleHere).outcome =
      .ok (.code 0) ∧
    ((generateFromArguments .styled (asArguments "" "o" "p" "e")).on sampleHere).outcome =
      .ok 1 := by
  have hs := accepts_schemaDir_sampleHere "" (.inl rfl)
  have hblank : isBlankText "" = true := by decide
  obtain ⟨problems, -, -, hrefused⟩ := refused_of_blank (.inl hblank)
  have hfate : fate (program .styled "" [] ("generate" :: asOptions "" "o" "p" "e")) sampleHere =
      fate (Exit.code <$> generate .styled (optionsOfTexts "" "o" "p" "e")) sampleHere :=
    fate_program "" "o" "p" "e" "" hs accepts_outputDir_sampleHere
  have hprogram := (eq_map_of_fate hfate).1
  rw [generate_sampleHere] at hprogram
  exact ⟨hs, accepts_outputDir_sampleHere, hprogram, (hrefused sampleHere).outcome⟩

end SchemaToJava.CommandLine
