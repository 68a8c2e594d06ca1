import SchemaToJava.Proofs.Emission.Fetcher
import SchemaToJava.Proofs.Generation.Files

/-!
What becomes of operations. Every operation of a schema file is a method of the interface that is
generated from that file, and the interface is there in the end unless a later schema file has one
of the same name. Then a warning tells which file has been replaced, and by what.
-/

namespace SchemaToJava.Generation

open Java SchemaFile

/-- The file holds an interface with the method. -/
def Declares (t : FileTree) (file : Path) (m : MethodDecl) : Prop :=
  ∃ i : InterfaceDecl, m ∈ i.methods ∧
    t.read file = .ok (Text.Utf8.encode (Artifact.ofInterface i).render)

def fetcherFile (c : Config) (file : Path) : Path :=
  (c.outputDir.join (packagePath (Emission.fetchersPackage c.packageName))).join
    (.ofText (fileName (Emission.fetcherName file.name)))

/-- Whether the interfaces of two schema files have the same name. -/
def sameFetcher (file next : Path) : Bool :=
  Emission.fetcherName next.name == Emission.fetcherName file.name

theorem fetcherFile_congr {c : Config} {file next : Path} (h : sameFetcher file next = true) :
    fetcherFile c next = fetcherFile c file := by
  unfold fetcherFile
  rw [beq_iff_eq.mp h]

section Plans

variable {c : Config} {t : FileTree} {file next : Path} {as bs : List Artifact}

theorem path_fetcher {doc : GraphQL.Document} {i : InterfaceDecl}
    (h : (Emission.fetcher c.packageName doc file.name).outcome = .ok i) :
    (Artifact.ofInterface i).path c.outputDir = fetcherFile c file := by
  obtain ⟨-, ms, -, rfl⟩ := Emission.fetcher_eq_ok_iff.mp h
  rfl

theorem sameFetcher_of_mem (hb : isPackageName c.packageName = true)
    (hfile : generated c t file = .ok as) (hnext : generated c t next = .ok bs)
    (h : fetcherFile c file ∈ bs.map (·.path c.outputDir)) : sameFetcher file next = true := by
  obtain ⟨doc, classes, i, -, -, hi, rfl⟩ := generated_parts hfile
  obtain ⟨a, ha, hpath⟩ := List.mem_map.mp h
  rw [← path_fetcher hi] at hpath
  obtain ⟨hsegments, hname⟩ := (legal_of_generated hb hnext ha).path_injective
    (legal_of_generated hb hfile (by simp)) hpath
  obtain ⟨-, ms, -, rfl⟩ := Emission.fetcher_eq_ok_iff.mp hi
  obtain ⟨_, others, j, -, hothers, hj, rfl⟩ := generated_parts hnext
  rcases Emission.class_or_fetcher ha with ⟨d, hd, rfl⟩ | rfl
  · rw [Artifact.package, Emission.package_of_dataClasses hothers hd] at hsegments
    exact absurd hsegments (Emission.segments_typesPackage_ne c.packageName)
  · obtain ⟨-, ms, -, rfl⟩ := Emission.fetcher_eq_ok_iff.mp hj
    exact beq_iff_eq.mpr hname

theorem not_mem_of_planned (hb : isPackageName c.packageName = true)
    (hfile : generated c t file = .ok as) {files : List Path} {q : Plan}
    (hq : planned c t files = .ok q) (hother : ∀ next ∈ files, sameFetcher file next = false) :
    ∀ e ∈ q, fetcherFile c file ∉ e.2.map (·.path c.outputDir) := by
  intro e he hmem
  obtain ⟨hnext, hgenerated⟩ := generated_of_planned hq he
  have hsame := sameFetcher_of_mem hb hfile hgenerated hmem
  rw [hother e.1 hnext] at hsame
  cases hsame

theorem overwrites_of_planned (hb : isPackageName c.packageName = true)
    {before between after : List Path} {p : Plan}
    (hp : planned c t (before ++ file :: (between ++ next :: after)) = .ok p)
    (hother : ∀ g ∈ between, sameFetcher file g = false) (hsame : sameFetcher file next = true) :
    .overwrites (fetcherFile c file) next file ∈ Plan.warnings c.outputDir [] p := by
  obtain ⟨earlier, _, rfl, -, hp⟩ := planned_append hp
  obtain ⟨as, _, rfl, hfile, hp⟩ := planned_cons hp
  obtain ⟨middle, _, rfl, hmiddle, hp⟩ := planned_append hp
  obtain ⟨bs, later, rfl, hnext, -⟩ := planned_cons hp
  obtain ⟨_, _, i, -, -, hi, has⟩ := generated_parts hfile
  obtain ⟨_, _, j, -, -, hj, hbs⟩ := generated_parts hnext
  have hpath : (Artifact.ofInterface j).path c.outputDir = fetcherFile c file :=
    (path_fetcher hj).trans (fetcherFile_congr hsame)
  have hlatest : Plan.latest? (earlier ++ (file, as) :: middle) c.outputDir (fetcherFile c file) =
      some file := by
    have hnone := Plan.latest?_eq_none_iff.mpr (not_mem_of_planned hb hfile hmiddle hother)
    have hmem : fetcherFile c file ∈ as.map (·.path c.outputDir) :=
      List.mem_map.mpr ⟨.ofInterface i, by simp [has], path_fetcher hi⟩
    rw [← List.singleton_append, ← List.append_assoc, Plan.latest?_append, hnone, Option.none_or,
      Plan.latest?_concat, if_pos hmem]
  rw [← List.cons_append, ← List.append_assoc, Plan.warnings_append, List.nil_append]
  refine List.mem_append_right _ (List.mem_append_left _ ?_)
  refine List.mem_filterMap.mpr ⟨.ofInterface j, by simp [hbs], ?_⟩
  rw [hpath, hlatest]
  rfl

end Plans

/-- In the end, every operation of a schema file is a method of an interface in the file that its
name tells, unless a later schema file has an interface of that name. Then a warning tells the file,
the first schema file that replaces it and the one it was generated from. -/
theorem operations_of_run {s : Config.Settings} {c : Config} (hc : Config.ofSettings s = .ok c)
    {t : FileTree} (ht : t.WellFormed) {result : Result}
    (h : ((run c).on t).outcome = .ok result) {before after : List Path} {file : Path}
    (hsplit : result.schemaFiles = before ++ file :: after) :
    ∃ doc, document t file = .ok doc ∧ ∀ r, ∀ f ∈ Emission.rootFields r doc, ∃ m,
      (Emission.method c.packageName ⟨r, f⟩).outcome = .ok m ∧
      (after.find? (sameFetcher file) = none →
        Declares ((run c).on t).tree (fetcherFile c file) m) ∧
      ∀ next, after.find? (sameFetcher file) = some next →
        .overwrites (fetcherFile c file) next file ∈ ((run c).on t).warnings := by
  have hb := Config.isPackageName_of_ofSettings hc
  obtain ⟨p, hrun⟩ := completed_of_ok ht hb h
  have hp := hrun.planned
  rw [hsplit] at hp
  obtain ⟨earlier, _, heq, -, hrest⟩ := planned_append hp
  obtain ⟨as, later, rfl, hfile, hlater⟩ := planned_cons hrest
  obtain ⟨doc, classes, i, hdoc, -, hi, has⟩ := generated_parts hfile
  refine ⟨doc, hdoc, fun r f hf => ?_⟩
  obtain ⟨-, ms, hms, hmethods⟩ := Emission.fetcher_eq_ok_iff.mp hi
  obtain ⟨-, -, hall⟩ := Emission.methods_eq_ok_iff.mp hms
  obtain ⟨m, hm, hmethod⟩ := Outcome.exists_of_forall₂ hall.flip (Emission.mem_rootFields.mp hf)
  refine ⟨m, hmethod, fun hnone => ⟨i, by rwa [hmethods], ?_⟩, fun next hnext => ?_⟩
  · have hlegal : ∀ a ∈ p.artifacts, a.Legal := fun _ ha => legal_of_planned hb hrun.planned ha
    have hartifacts : p.artifacts = (Plan.artifacts earlier ++ classes.map .ofClass) ++
        .ofInterface i :: Plan.artifacts later := by
      simp [heq, Plan.artifacts, has]
    rw [← path_fetcher hi]
    refine (hrun.stored.written ht hlegal).last hartifacts fun b hmem hpath => ?_
    obtain ⟨e, he, hb'⟩ := List.mem_flatMap.mp hmem
    refine not_mem_of_planned hb hfile hlater (fun g hg => ?_) e he
      (List.mem_map.mpr ⟨b, hb', hpath.trans (path_fetcher hi)⟩)
    simpa using List.find?_eq_none.mp hnone g hg
  · obtain ⟨hsame, between, rest, rfl, hother⟩ := List.find?_eq_some_iff_append.mp hnext
    rw [hrun.warnings]
    exact overwrites_of_planned hb hp (fun g hg => by simpa using hother g hg) hsame

theorem infix_encode (before s after : String) :
    Text.Utf8.encode s <:+: Text.Utf8.encode (before ++ s ++ after) := by
  rw [Text.Utf8.encode_append, Text.Utf8.encode_append]
  exact List.infix_append _ _ _

theorem infix_encode_join {s : String} {ss : List String} (h : s ∈ ss) :
    Text.Utf8.encode s <:+: Text.Utf8.encode (String.join ss) := by
  induction ss with
  | nil => cases h
  | cons t rest ih =>
    rw [String.join_cons, Text.Utf8.encode_append]
    rcases List.mem_cons.mp h with rfl | h
    · exact (List.prefix_append _ _).isInfix
    · exact (ih h).trans (List.suffix_append _ _).isInfix

theorem infix_encode_intercalate (separator : String) {s : String} {ss : List String} (h : s ∈ ss) :
    Text.Utf8.encode s <:+: Text.Utf8.encode (separator.intercalate ss) := by
  cases ss with
  | nil => cases h
  | cons t rest =>
    rw [intercalate_cons, Text.Utf8.encode_append]
    rcases List.mem_cons.mp h with rfl | h
    · exact (List.prefix_append _ _).isInfix
    · have hjoin := infix_encode_join (List.mem_map_of_mem (f := (separator ++ ·)) h)
      rw [Text.Utf8.encode_append] at hjoin
      exact ((List.suffix_append _ _).isInfix.trans hjoin).trans (List.suffix_append _ _).isInfix

theorem infix_methodText (m : MethodDecl) (scope : ImportScope) :
    Text.Utf8.encode (m.name ++ "(") <:+: Text.Utf8.encode (m.text scope) := by
  have htext : m.text scope = annotationLines scope "  " m.annotations ++ "  " ++
      scope.spelling m.returnType ++ " " ++ (m.name ++ "(") ++
      (", ".intercalate (m.parameters.map (·.text scope)) ++ ");\n") := by
    simp only [MethodDecl.text, String.append_assoc]
  rw [htext]
  exact infix_encode _ _ _

theorem render_pieces (a : Artifact) : a.render =
    "package " ++ a.package ++ ";\n\n" ++ importLines a.scope.imports ++
      annotationLines a.scope "" a.annotations ++ "public " ++ a.keyword ++ " " ++ a.name ++
      " \x7b\n" ++ "\n".intercalate (a.bodyTexts a.scope) ++ "\x7d\n" := rfl

theorem infix_of_declares {t : FileTree} {file : Path} {m : MethodDecl} (h : Declares t file m) :
    ∃ bytes, t.read file = .ok bytes ∧ Text.Utf8.encode (m.name ++ "(") <:+: bytes := by
  obtain ⟨i, hm, hread⟩ := h
  have hmethod : m.text (Artifact.ofInterface i).scope ∈
      (Artifact.ofInterface i).bodyTexts (Artifact.ofInterface i).scope := List.mem_map_of_mem hm
  refine ⟨_, hread, ?_⟩
  rw [render_pieces]
  exact ((infix_methodText m _).trans (infix_encode_intercalate "\n" hmethod)).trans
    (infix_encode _ _ _)

def operationsTree : FileTree :=
  ⟨[], [(["s"], .directory),
    (["s", "a.graphqls"], .file (Text.Utf8.encode "type Query \x7b lost: Int \x7d")),
    (["s", "d"], .directory),
    (["s", "d", "a.graphqls"], .file (Text.Utf8.encode "type Query \x7b kept: Int \x7d"))]⟩

def operationsOpened : FileTree :=
  ⟨[], (["o", "p", "fetchers"], .directory) :: (["o", "p"], .directory) :: (["o"], .directory) ::
    operationsTree.entries⟩

def operationsStored (bytes : List UInt8) : FileTree :=
  ⟨[], (sampleTarget.parts, .file bytes) :: operationsOpened.entries⟩

def operationDocument (name : String) : GraphQL.Document :=
  ⟨[.typeSystem (.object ⟨none, "Query", [], [], [⟨none, name, [], .named "Int", []⟩]⟩)]⟩

def operationMethod (name : String) : MethodDecl :=
  ⟨name, .primitive "int", [Emission.Root.query.marker], [Emission.environmentParameter]⟩

def operationInterface (name : String) : InterfaceDecl :=
  ⟨"p.fetchers", "AFetcher", [Emission.component], [operationMethod name], some "a.graphqls"⟩

def operationBytes (name : String) : List UInt8 :=
  Text.Utf8.encode (Artifact.ofInterface (operationInterface name)).render

theorem operationsTree_wellFormed : operationsTree.WellFormed := by decide

theorem fetcherName_sample : Emission.fetcherName "a.graphqls" = "AFetcher" := by cbv

theorem method_operation {name : String} (h : isIdentifier name = true) :
    (Emission.method "p" ⟨.query, ⟨none, name, [], .named "Int", []⟩⟩).outcome =
      .ok (operationMethod name) := by
  have htype : Emission.javaType "p" "Int" = .ok (.primitive "int") := rfl
  have hname : Emission.requireIdentifier "method" name = .ok name := if_pos h
  simp only [Emission.method, List.mapM_nil, Traced.outcome_bind, Traced.outcome_pure,
    Traced.outcome_silently, GraphQL.TypeExpr.base, htype, hname]
  rfl

theorem fetcher_operation {name : String} (h : isIdentifier name = true) :
    (Emission.fetcher "p" (operationDocument name) "a.graphqls").outcome =
      .ok (operationInterface name) := by
  rw [Emission.fetcher_eq_ok_iff, fetcherName_sample]
  refine ⟨by decide, [operationMethod name], ?_, rfl⟩
  exact Emission.methods_eq_ok_iff.mpr
    ⟨List.nodup_singleton _, by simp, .cons (method_operation h) .nil⟩

theorem fromFile_operation {name : String} {t u v : FileTree} {file : Path}
    (hlegal : isIdentifier name = true) (hname : file.name = "a.graphqls")
    (hdoc : document t file = .ok (operationDocument name))
    (hdirs : t.makeDirectories sampleTarget.parent = (u, .ok ()))
    (hwrite : u.write sampleTarget (operationBytes name) = .ok v) :
    (fromFile (sample "z.graphqls") file).Ends t (.ok [sampleTarget]) [.processing file] v := by
  have hclasses : (Emission.dataClasses (sample "z.graphqls").packageName (operationDocument name)
      (some file.name)).outcome = .ok [] := rfl
  have hpath : (Artifact.ofInterface (operationInterface name)).path (sample "z.graphqls").outputDir =
      sampleTarget := by cbv
  have hstore := writeArtifact_ends_ok (sample "z.graphqls").outputDir
    (.ofInterface (operationInterface name)) (hpath ▸ hdirs) (hpath ▸ hwrite)
  rw [hpath] at hstore
  exact fromFile_ends_ok hdoc hclasses (Run.Ends.pure [] t) (hname ▸ fetcher_operation hlegal)
    hstore

theorem parse_lost : GraphQL.Document.parse "type Query \x7b lost: Int \x7d".toList =
    .ok (operationDocument "lost") := by
  cbv

theorem parse_kept : GraphQL.Document.parse "type Query \x7b kept: Int \x7d".toList =
    .ok (operationDocument "kept") := by
  cbv

theorem document_lost : document operationsTree (sampleFile ["a.graphqls"]) =
    .ok (operationDocument "lost") :=
  document_eq_ok (by cbv) parse_lost

theorem document_kept : document operationsTree (sampleFile ["d", "a.graphqls"]) =
    .ok (operationDocument "kept") :=
  document_eq_ok (by cbv) parse_kept

theorem run_operationsTree : (run (sample "z.graphqls")).Ends operationsTree
    (.ok ⟨[sampleFile ["a.graphqls"], sampleFile ["d", "a.graphqls"]], [sampleTarget]⟩)
    [.found 2 ⟨.working, ["s"]⟩, .processing (sampleFile ["a.graphqls"]),
      .processing (sampleFile ["d", "a.graphqls"]),
      .overwrites sampleTarget (sampleFile ["d", "a.graphqls"]) (sampleFile ["a.graphqls"]),
      .generated 1 ⟨.working, ["o"]⟩]
    (operationsStored (operationBytes "kept")) := by
  have hfiles : schemaFiles (sample "z.graphqls") operationsTree =
      .ok [sampleFile ["a.graphqls"], sampleFile ["d", "a.graphqls"]] := by cbv
  have hopen : operationsTree.makeDirectories sampleTarget.parent = (operationsOpened, .ok ()) := by
    cbv
  have hstore : ∀ bytes, operationsOpened.write sampleTarget bytes = .ok (operationsStored bytes) := by
    intro bytes
    cbv
  have hopened : ∀ bytes, (operationsStored bytes).makeDirectories sampleTarget.parent =
      (operationsStored bytes, .ok ()) :=
    fun _ => FileTree.makeDirectories_of_isDirectory (by cbv)
  have hreplace : ∀ bytes bytes', (operationsStored bytes).write sampleTarget bytes' =
      .ok (operationsStored bytes') := by
    intro bytes bytes'
    cbv
  have hdirs := FileTree.Wrote.of_makeDirectories_eq operationsTree_wellFormed hopen
  have hreread : ∀ bytes, document (operationsStored bytes) (sampleFile ["d", "a.graphqls"]) =
      .ok (operationDocument "kept") := by
    intro bytes
    have hwrote := hdirs.trans (.of_write hdirs.wellFormed (hstore bytes))
    have hschema : IsSchemaFile operationsTree (sampleFile ["d", "a.graphqls"]) :=
      isSchemaFile_of_discover operationsTree_wellFormed hfiles (by simp)
    have hother : operationsTree.placeOf (sampleFile ["d", "a.graphqls"]) ≠
        operationsOpened.placeOf sampleTarget := by decide
    rw [hschema.document_eq operationsTree_wellFormed hwrote (by simpa using hother)]
    exact document_kept
  have hfirst := fromFile_operation (by decide) rfl document_lost hopen (hstore _)
  have hsecond := fromFile_operation (by decide) rfl (hreread (operationBytes "lost"))
    (hopened (operationBytes "lost")) (hreplace _ _)
  have hnew := records_end [] (sampleFile ["a.graphqls"]) (List.nodup_singleton sampleTarget)
    (by simp) (operationsStored (operationBytes "lost"))
  have hagain := records_end [(sampleTarget, sampleFile ["a.graphqls"])]
    (sampleFile ["d", "a.graphqls"]) (List.nodup_singleton sampleTarget) (by decide)
    (operationsStored (operationBytes "kept"))
  exact run_ends_ok hfiles ((hfirst.bind hnew).bind ((hsecond.bind hagain).bind (Run.Ends.pure _ _)))

theorem imports_kept : (Artifact.ofInterface (operationInterface "kept")).scope.imports =
    ["com.netflix.graphql.dgs.DgsComponent", "com.netflix.graphql.dgs.DgsQuery",
      "graphql.schema.DataFetchingEnvironment"] :=
  List.mergeSort_of_pairwise (by decide)

theorem not_infix_kept : ¬ Text.Utf8.encode "lost(" <:+: operationBytes "kept" := by
  rw [operationBytes, render_pieces, imports_kept]
  -- the bytes as they are kept need no reading of the characters
  simp only [Text.Utf8.encode_eq_toByteArray]
  decide +kernel

theorem mem_rootFields_operation (name : String) :
    (⟨none, name, [], .named "Int", []⟩ : GraphQL.Field) ∈
      Emission.rootFields .query (operationDocument name) := by
  simp [Emission.rootFields, Emission.rootFieldsOf, operationDocument, Emission.Root.name]

/-- The operation of the first schema file is in no file that is there in the end. -/
theorem lost_operation :
    Config.ofSettings (sampleSettings "z.graphqls") = .ok (sample "z.graphqls") ∧
      operationsTree.WellFormed ∧
      ((run (sample "z.graphqls")).on operationsTree).outcome =
        .ok ⟨[sampleFile ["a.graphqls"], sampleFile ["d", "a.graphqls"]], [sampleTarget]⟩ ∧
      document operationsTree (sampleFile ["a.graphqls"]) = .ok (operationDocument "lost") ∧
      ∃ f ∈ Emission.rootFields .query (operationDocument "lost"), ∃ m,
        (Emission.method "p" ⟨.query, f⟩).outcome = .ok m ∧
        ∀ file, ¬ Declares ((run (sample "z.graphqls")).on operationsTree).tree file m := by
  refine ⟨ofSettings_sample, operationsTree_wellFormed, run_operationsTree.outcome, document_lost,
    _, mem_rootFields_operation "lost", operationMethod "lost", method_operation (by decide),
    fun file h => ?_⟩
  obtain ⟨bytes, hread, hinfix⟩ := infix_of_declares h
  rw [run_operationsTree.tree] at hread
  obtain ⟨-, l, -, hfile⟩ := FileTree.read_eq_ok_iff.mp hread
  have hget := FileTree.fileAt?_eq_some_iff.mp hfile
  by_cases hl : l = []
  · rw [hl] at hget
    cases hget
  · have hmem := FileTree.mem_entries_of_get? hget hl
    simp only [operationsStored, operationsOpened, operationsTree, List.mem_cons, Prod.mk.injEq,
      List.not_mem_nil, or_false, Entry.file.injEq, reduceCtorEq, and_false, false_or] at hmem
    rcases hmem with ⟨-, rfl⟩ | ⟨-, rfl⟩ | ⟨-, rfl⟩
    · exact not_infix_kept hinfix
    · exact absurd hinfix (by decide)
    · exact absurd hinfix (by decide)

theorem operations_of_operationsTree :
    .overwrites sampleTarget (sampleFile ["d", "a.graphqls"]) (sampleFile ["a.graphqls"]) ∈
        ((run (sample "z.graphqls")).on operationsTree).warnings ∧
      Declares ((run (sample "z.graphqls")).on operationsTree).tree sampleTarget
        (operationMethod "kept") := by
  have htarget : ∀ way : Location, (sampleFile way).name = "a.graphqls" →
      fetcherFile (sample "z.graphqls") (sampleFile way) = sampleTarget := by
    intro way hname
    rw [fetcherFile, hname, fetcherName_sample]
    cbv
  obtain ⟨doc, hdoc, hfirst⟩ := operations_of_run ofSettings_sample operationsTree_wellFormed
    run_operationsTree.outcome (List.nil_append (_ :: [_])).symm
  obtain ⟨doc', hdoc', hsecond⟩ := operations_of_run ofSettings_sample operationsTree_wellFormed
    run_operationsTree.outcome (List.singleton_append (l := [_])).symm
  rw [document_lost] at hdoc
  rw [document_kept] at hdoc'
  cases hdoc
  cases hdoc'
  obtain ⟨-, -, -, hwarned⟩ := hfirst .query _ (mem_rootFields_operation "lost")
  obtain ⟨m, hm, hdeclared, -⟩ := hsecond .query _ (mem_rootFields_operation "kept")
  cases hm.symm.trans (method_operation (by decide))
  rw [htarget _ rfl] at hwarned hdeclared
  exact ⟨hwarned _ (by decide), hdeclared rfl⟩

end SchemaToJava.Generation
