import SchemaToJava.Proofs.Emission.Faults
import SchemaToJava.Proofs.Generation.Plan

/-!
Generating from one schema file. Either all of its artifacts are written, or it stops at a fault and
leaves those that were written before.
-/

namespace SchemaToJava.Generation

open Java SchemaFile

/-- The artifacts have been written one after another, each where its path leads. -/
structure Stored (t : FileTree) (out : Path) (as : List Artifact) (u : FileTree) : Prop where
  wrote : t.Wrote (as.map fun a => (t.placeOf (a.path out), Text.Utf8.encode a.render)) u
  reached : ∀ a ∈ as, FileTree.hasNull (a.path out) = false ∧
    u.locate (a.path out) = .ok (t.placeOf (a.path out))

namespace Stored

variable {t u v : FileTree} {out : Path} {as bs : List Artifact}

theorem of_wrote (h : t.Wrote [] u) : Stored t out [] u := ⟨h, by simp⟩

theorem trans (h : Stored t out as u) (k : Stored u out bs v) : Stored t out (as ++ bs) v where
  wrote := by
    have hsame : ∀ b : Artifact, u.placeOf (b.path out) = t.placeOf (b.path out) :=
      fun b => h.wrote.placeOf _
    have hk := k.wrote
    simp only [hsame] at hk
    rw [List.map_append]
    exact h.wrote.trans hk
  reached := by
    intro a ha
    rcases List.mem_append.mp ha with ha | ha
    · exact ⟨(h.reached a ha).1, k.wrote.locate (h.reached a ha).2⟩
    · rw [← h.wrote.placeOf]
      exact k.reached a ha

end Stored

def refusal (out : Path) (a : Artifact) (e : FileError) : Fault :=
  Run.fileFault (.unwritable (a.path out)) e

theorem writeArtifact_ends_ok {t u v : FileTree} (out : Path) (a : Artifact)
    (hdirs : t.makeDirectories (a.path out).parent = (u, .ok ()))
    (hwrite : u.write (a.path out) (Text.Utf8.encode a.render) = .ok v) :
    (writeArtifact out a).Ends t (.ok (a.path out)) [] v := by
  have hmake := Run.Ends.makeDirectories (a.path out).parent
    (Run.fileFault (.unwritable (a.path out))) t
  rw [hdirs] at hmake
  unfold writeArtifact
  exact hmake.bind ((Run.Ends.write_ok hwrite _).bind
    ((Run.Ends.detail rfl v).bind (Run.Ends.pure _ v)))

theorem writeArtifact_ends {t : FileTree} (ht : t.WellFormed) (out : Path) (a : Artifact) :
    (∃ u, (writeArtifact out a).Ends t (.ok (a.path out)) [] u ∧ Stored t out [a] u) ∨
    ∃ e u, (writeArtifact out a).Ends t (.error (refusal out a e)) [] u ∧ Stored t out [] u := by
  have hwrote := FileTree.Wrote.of_makeDirectories ht (a.path out).parent
  have hmake := Run.Ends.makeDirectories (a.path out).parent
    (Run.fileFault (.unwritable (a.path out))) t
  cases hdirs : t.makeDirectories (a.path out).parent with
  | mk u result =>
    rw [hdirs] at hwrote hmake
    cases result with
    | error e => exact .inr ⟨e, u, hmake.bind_error _, .of_wrote hwrote⟩
    | ok _ =>
      cases hwrite : u.write (a.path out) (Text.Utf8.encode a.render) with
      | error e =>
        exact .inr ⟨e, u, hmake.bind ((Run.Ends.write_error hwrite _).bind_error _),
          .of_wrote hwrote⟩
      | ok v =>
        have hfile := FileTree.Wrote.of_write hwrote.wellFormed hwrite
        obtain ⟨hnull, l, hl, -, -⟩ := FileTree.write_eq_ok_iff.mp hwrite
        have hplace := FileTree.eq_placeOf_of_locate hwrote.wellFormed hl
        rw [hwrote.placeOf] at hfile hplace
        refine .inl ⟨v, writeArtifact_ends_ok out a hdirs hwrite, hwrote.trans hfile, ?_⟩
        intro b hb
        rw [List.mem_singleton.mp hb]
        exact ⟨hnull, hplace ▸ hfile.locate hl⟩

/-- Writing several artifacts stops at the first that is refused. -/
theorem writeArtifacts_ends {t : FileTree} (ht : t.WellFormed) (out : Path) (as : List Artifact) :
    (∃ u, (as.mapM (writeArtifact out)).Ends t (.ok (as.map (·.path out))) [] u ∧
      Stored t out as u) ∨
    ∃ done a rest e u, as = done ++ a :: rest ∧
      (as.mapM (writeArtifact out)).Ends t (.error (refusal out a e)) [] u ∧
      Stored t out done u := by
  induction as generalizing t with
  | nil => exact .inl ⟨t, Run.Ends.pure [] t, .of_wrote (.refl ht)⟩
  | cons a rest ih =>
    rw [List.mapM_cons]
    rcases writeArtifact_ends ht out a with ⟨u, ha, hu⟩ | ⟨e, u, ha, hu⟩
    · rcases ih hu.wrote.wellFormed with ⟨v, hrest, hv⟩ | ⟨done, b, more, e, v, rfl, hrest, hv⟩
      · exact .inl ⟨v, ha.bind (hrest.bind (Run.Ends.pure _ v)), hu.trans hv⟩
      · exact .inr ⟨a :: done, b, more, e, v, rfl, ha.bind (hrest.bind_error _), hu.trans hv⟩
    · exact .inr ⟨[], a, rest, e, u, rfl, ha.bind_error _, hu⟩

/-- How generating from a schema file ends with a fault, and what has been written then: nothing if
there are no classes, all classes if there is no fetcher, and what comes before the artifact whose
file was refused. -/
inductive Stop (c : Config) (t : FileTree) (file : Path) : Fault → List Artifact → Prop where
  | noDocument {e : Fault} (failed : document t file = .error e) : Stop c t file e []
  | noClasses {doc : GraphQL.Document} {e : Fault} (read : document t file = .ok doc)
    (failed : (Emission.dataClasses c.packageName doc (some file.name)).outcome = .error e) :
    Stop c t file e []
  | noFetcher {doc : GraphQL.Document} {classes : List ClassDecl} {e : Fault}
    (read : document t file = .ok doc)
    (built : (Emission.dataClasses c.packageName doc (some file.name)).outcome = .ok classes)
    (failed : (Emission.fetcher c.packageName doc file.name).outcome = .error e) :
    Stop c t file e (classes.map .ofClass)
  | classRefused {doc : GraphQL.Document} {classes : List ClassDecl} {done rest : List Artifact}
    {a : Artifact} (read : document t file = .ok doc)
    (built : (Emission.dataClasses c.packageName doc (some file.name)).outcome = .ok classes)
    (split : classes.map .ofClass = done ++ a :: rest) (e : FileError) :
    Stop c t file (refusal c.outputDir a e) done
  | fetcherRefused {doc : GraphQL.Document} {classes : List ClassDecl} {i : InterfaceDecl}
    (read : document t file = .ok doc)
    (built : (Emission.dataClasses c.packageName doc (some file.name)).outcome = .ok classes)
    (last : (Emission.fetcher c.packageName doc file.name).outcome = .ok i) (e : FileError) :
    Stop c t file (refusal c.outputDir (.ofInterface i) e) (classes.map .ofClass)

theorem generated_eq_ok {c : Config} {t : FileTree} {file : Path} {doc : GraphQL.Document}
    {classes : List ClassDecl} {i : InterfaceDecl} (read : document t file = .ok doc)
    (built : (Emission.dataClasses c.packageName doc (some file.name)).outcome = .ok classes)
    (last : (Emission.fetcher c.packageName doc file.name).outcome = .ok i) :
    generated c t file = .ok (classes.map .ofClass ++ [.ofInterface i]) := by
  unfold generated
  rw [read]
  exact Emission.artifacts_eq_ok_iff.mpr ⟨classes, i, built, last, rfl⟩

theorem traced_ends {α : Type} {x : Traced α} (h : Emission.Builds x) (t : FileTree) :
    (Run.traced x).Ends t x.outcome [] t := by
  refine Run.Ends.traced (fun e he => ?_) t
  cases h.events e he <;> rfl

theorem fromFile_ends_unread {c : Config} {t : FileTree} {file : Path} {e : Fault}
    (h : document t file = .error e) :
    (fromFile c file).Ends t (.error e) [.processing file] t := by
  have hload := load_ends t file
  rw [h] at hload
  unfold fromFile
  exact (Run.Ends.note rfl t).bind (hload.bind_error _)

section Written

variable {c : Config} {t u v : FileTree} {file : Path} {ps : List Path} {doc : GraphQL.Document}
  {classes : List ClassDecl}
  (hdoc : document t file = .ok doc)
  (hclasses : (Emission.dataClasses c.packageName doc (some file.name)).outcome = .ok classes)
  (hfirst : (classes.mapM fun d => writeArtifact c.outputDir (.ofClass d)).Ends t (.ok ps) [] u)

include hdoc hclasses hfirst

theorem fromFile_ends_written {o : Except Fault (List Path)}
    (hlast : (do
      let fetcher ← Run.traced (Emission.fetcher c.packageName doc file.name)
      return ps ++ [← writeArtifact c.outputDir (.ofInterface fetcher)]).Ends u o [] v) :
    (fromFile c file).Ends t o [.processing file] v := by
  have hload := load_ends t file
  have hbuild := traced_ends (Emission.builds_dataClasses c.packageName doc (some file.name)) t
  rw [hdoc] at hload
  rw [hclasses] at hbuild
  unfold fromFile
  exact (Run.Ends.note rfl t).bind (hload.bind (hbuild.bind (hfirst.bind hlast)))

theorem fromFile_ends_unbuilt {e : Fault}
    (hi : (Emission.fetcher c.packageName doc file.name).outcome = .error e) :
    (fromFile c file).Ends t (.error e) [.processing file] u := by
  have hfetch := traced_ends (Emission.builds_fetcher c.packageName doc file.name) u
  rw [hi] at hfetch
  exact fromFile_ends_written hdoc hclasses hfirst (hfetch.bind_error _)

variable {i : InterfaceDecl} (hi : (Emission.fetcher c.packageName doc file.name).outcome = .ok i)

include hi

theorem fromFile_ends_ok {p : Path}
    (hlast : (writeArtifact c.outputDir (.ofInterface i)).Ends u (.ok p) [] v) :
    (fromFile c file).Ends t (.ok (ps ++ [p])) [.processing file] v := by
  have hfetch := traced_ends (Emission.builds_fetcher c.packageName doc file.name) u
  rw [hi] at hfetch
  exact fromFile_ends_written hdoc hclasses hfirst (hfetch.bind (hlast.bind (Run.Ends.pure _ v)))

theorem fromFile_ends_refused {e : Fault}
    (hlast : (writeArtifact c.outputDir (.ofInterface i)).Ends u (.error e) [] v) :
    (fromFile c file).Ends t (.error e) [.processing file] v := by
  have hfetch := traced_ends (Emission.builds_fetcher c.packageName doc file.name) u
  rw [hi] at hfetch
  exact fromFile_ends_written hdoc hclasses hfirst (hfetch.bind (hlast.bind_error _))

end Written

theorem fromFile_ends {u : FileTree} (hu : u.WellFormed) (c : Config) (file : Path) :
    (∃ as v, generated c u file = .ok as ∧
      (fromFile c file).Ends u (.ok (as.map (·.path c.outputDir))) [.processing file] v ∧
      Stored u c.outputDir as v) ∨
    ∃ e done v, Stop c u file e done ∧
      (fromFile c file).Ends u (.error e) [.processing file] v ∧ Stored u c.outputDir done v := by
  have hnothing : Stored u c.outputDir [] u := .of_wrote (.refl hu)
  cases hdoc : document u file with
  | error e => exact .inr ⟨e, [], u, .noDocument hdoc, fromFile_ends_unread hdoc, hnothing⟩
  | ok doc =>
    have hnote : (Run.note (.processing file)).Ends u (.ok ()) [.processing file] u := .note rfl u
    have hload := load_ends u file
    have hbuild := traced_ends
      (Emission.builds_dataClasses c.packageName doc (some file.name)) u
    rw [hdoc] at hload
    cases hclasses : (Emission.dataClasses c.packageName doc (some file.name)).outcome with
    | error e =>
      rw [hclasses] at hbuild
      exact .inr ⟨e, [], u, .noClasses hdoc hclasses,
        hnote.bind (hload.bind (hbuild.bind_error _)), hnothing⟩
    | ok classes =>
      rw [hclasses] at hbuild
      have hwrite := writeArtifacts_ends hu c.outputDir (classes.map .ofClass)
      rw [List.mapM_map] at hwrite
      rcases hwrite with ⟨v, hv, hstored⟩ | ⟨done, a, rest, e, v, hsplit, hv, hstored⟩
      · cases hi : (Emission.fetcher c.packageName doc file.name).outcome with
        | error e =>
          exact .inr ⟨e, _, v, .noFetcher hdoc hclasses hi,
            fromFile_ends_unbuilt hdoc hclasses hv hi, hstored⟩
        | ok i =>
          rcases writeArtifact_ends hstored.wrote.wellFormed c.outputDir (.ofInterface i) with
            ⟨w, hw, hlast⟩ | ⟨e, w, hw, hlast⟩
          · refine .inl ⟨_, w, generated_eq_ok hdoc hclasses hi, ?_, hstored.trans hlast⟩
            rw [List.map_append]
            exact fromFile_ends_ok hdoc hclasses hv hi hw
          · refine .inr ⟨_, _, w, .fetcherRefused hdoc hclasses hi e, ?_, ?_⟩
            · exact fromFile_ends_refused hdoc hclasses hv hi hw
            · simpa using hstored.trans hlast
      · exact .inr ⟨_, done, v, .classRefused hdoc hclasses hsplit e,
          hnote.bind (hload.bind (hbuild.bind (hv.bind_error _))), hstored⟩

theorem Stop.of_document_eq {c : Config} {t u : FileTree} {file : Path} {e : Fault}
    {done : List Artifact} (h : document u file = document t file) (hstop : Stop c u file e done) :
    Stop c t file e done := by
  cases hstop with
  | noDocument failed => exact .noDocument (h ▸ failed)
  | noClasses read failed => exact .noClasses (h ▸ read) failed
  | noFetcher read built failed => exact .noFetcher (h ▸ read) built failed
  | classRefused read built split e => exact .classRefused (h ▸ read) built split e
  | fetcherRefused read built last e => exact .fetcherRefused (h ▸ read) built last e

end SchemaToJava.Generation
