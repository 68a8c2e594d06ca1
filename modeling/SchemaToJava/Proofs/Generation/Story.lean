import SchemaToJava.Proofs.Generation.Files

/-!
What a run tells of schema files. Whatever the files are, its events are the story of the schema
files that went through: each is taken, its Java files are written, and then warnings are given. Of
a schema file at which the run stops there is no more than what was written from it.
-/

namespace SchemaToJava.Generation

open Java SchemaFile

/-- The events that tell what becomes of which schema file. -/
def marks (es : List Event) : List Event :=
  es.filter fun
    | .processing _ | .wrote _ | .overwrites .. => true
    | _ => false

theorem marks_append (es fs : List Event) : marks (es ++ fs) = marks es ++ marks fs :=
  List.filter_append es fs

/-- What is written, each file with the schema file that was taken last, at first `source`. -/
def writingsFrom : (source : Option Path) → List Event → List (Path × Path)
  | _, [] => []
  | source, e :: es =>
    match e with
    | .processing file => writingsFrom (some file) es
    | .wrote file => source.toList.map (·, file) ++ writingsFrom source es
    | _ => writingsFrom source es

def writings (es : List Event) : List (Path × Path) := writingsFrom none es

theorem writings_marks (es : List Event) : writings (marks es) = writings es := by
  unfold writings
  generalize none = source
  induction es generalizing source with
  | nil => rfl
  | cons e es ih => cases e <;> simp [marks, writingsFrom, ← ih]

theorem processed_marks (es : List Event) : processed (marks es) = processed es := by
  induction es with
  | nil => rfl
  | cons e es ih => cases e <;> simp_all [marks, processed]

theorem overwrites_mem_warnings {α : Type} {r : Report α} {file source previous : Path} :
    .overwrites file source previous ∈ r.warnings ↔
      .overwrites file source previous ∈ marks r.events := by
  simp [Report.warnings, marks, Event.level]

end SchemaToJava.Generation

namespace SchemaToJava.Run

open Generation

variable {α β : Type}

/-- On some files, the run has the outcome `o` and tells `ms` of schema files. -/
def Shows (x : Run α) (o : Except Fault α) (ms : List Event) : Prop :=
  ∃ w, (x w).outcome = o ∧ marks (x w).events = ms

namespace Shows

variable {o : Except Fault α} {ms : List Event}

theorem pure {a : α} (h : (Pure.pure a : Run α).Shows o ms) : o = .ok a ∧ ms = [] := by
  obtain ⟨w, rfl, rfl⟩ := h
  exact ⟨rfl, rfl⟩

theorem note {e : Event} {o : Except Fault Unit} (h : (Run.note e).Shows o ms) :
    o = .ok () ∧ ms = marks [e] := by
  obtain ⟨w, rfl, rfl⟩ := h
  exact ⟨rfl, rfl⟩

theorem bind {x : Run α} {f : α → Run β} {o : Except Fault β} (h : (x >>= f).Shows o ms) :
    (∃ a first rest, x.Shows (.ok a) first ∧ (f a).Shows o rest ∧ ms = first ++ rest) ∨
      ∃ e, o = .error e ∧ x.Shows (.error e) ms := by
  obtain ⟨w, rfl, rfl⟩ := h
  rw [bind_apply]
  cases hx : (x w).outcome with
  | error e => exact .inr ⟨e, rfl, w, hx, rfl⟩
  | ok a =>
    refine .inl ⟨a, _, _, ⟨w, hx, rfl⟩, ⟨(x w).after, rfl, rfl⟩, ?_⟩
    rw [← marks_append]
    exact congrArg marks List.filterMap_append

end Shows

/-- Whatever the files are, the run tells nothing of schema files. -/
def Mute (x : Run α) : Prop := ∀ w, marks (x w).events = []

namespace Mute

theorem shows {x : Run α} (h : Mute x) {o : Except Fault α} {ms : List Event}
    (hs : x.Shows o ms) : ms = [] := by
  obtain ⟨w, -, rfl⟩ := hs
  exact h w

theorem of_outputs {x : Run α} (h : ∀ w, (x w).outputs = []) : Mute x := by
  intro w
  rw [Report.events, h]
  rfl

theorem pure (a : α) : Mute (Pure.pure a : Run α) := of_outputs fun _ => rfl

theorem fail (f : Fault) : Mute (fail f : Run α) := of_outputs fun _ => rfl

theorem inspect (f : FileTree → α) : Mute (inspect f) := of_outputs fun _ => rfl

theorem orFault {ε : Type} (fault : ε → Fault) (x : Except ε α) : Mute (orFault fault x) := by
  cases x
  · exact fail _
  · exact pure _

theorem makeDirectories (p : Path) (fault : FileError → Fault) : Mute (makeDirectories p fault) :=
  of_outputs fun _ => rfl

theorem write (p : Path) (bytes : List UInt8) (fault : FileError → Fault) :
    Mute (write p bytes fault) := by
  refine of_outputs fun w => ?_
  unfold Run.write
  split <;> rfl

theorem note {e : Event} (h : marks [e] = []) : Mute (Run.note e) := fun _ => h

theorem traced {x : Traced α} (h : Emission.Builds x) : Mute (Run.traced x) := by
  intro w
  have hevents : (Run.traced x w).events = x.events := by
    simp [Report.events, Run.traced, List.filterMap_map]
  rw [hevents, marks, List.filter_eq_nil_iff]
  intro e he
  cases h.events e he <;> simp

theorem bind {x : Run α} {f : α → Run β} (hx : Mute x) (hf : ∀ a, Mute (f a)) :
    Mute (x >>= f) := by
  intro w
  have hs : (x >>= f).Shows ((x >>= f) w).outcome (marks ((x >>= f) w).events) := ⟨w, rfl, rfl⟩
  rcases hs.bind with ⟨a, first, rest, hfirst, hrest, heq⟩ | ⟨e, -, h⟩
  · rw [heq, hx.shows hfirst, (hf a).shows hrest, List.append_nil]
  · exact hx.shows h

theorem forIn {f : α → β → Run (ForInStep β)} (h : ∀ a b, Mute (f a b)) (xs : List α) (b : β) :
    Mute (forIn xs b f) := by
  induction xs generalizing b with
  | nil => exact pure b
  | cons x xs ih =>
    rw [List.forIn_cons]
    refine bind (h x b) fun step => ?_
    cases step with
    | done b => exact pure b
    | yield b => exact ih b

end Mute

theorem Shows.bind_of_mute {x : Run α} {f : α → Run β} {o : Except Fault β} {ms : List Event}
    (hx : Mute x) (h : (x >>= f).Shows o ms) :
    (∃ a, x.Shows (.ok a) [] ∧ (f a).Shows o ms) ∨ ∃ e, o = .error e ∧ ms = [] := by
  rcases h.bind with ⟨a, first, rest, hfirst, hrest, rfl⟩ | ⟨e, rfl, he⟩
  · obtain rfl := hx.shows hfirst
    exact .inl ⟨a, hfirst, hrest⟩
  · exact .inr ⟨e, rfl, hx.shows he⟩

end SchemaToJava.Run

namespace SchemaToJava.Generation

open Java SchemaFile Run

theorem mute_load (file : Path) : Mute (load file) := by
  unfold load
  exact .bind (.inspect _) fun _ => .bind (.orFault _ _) fun _ => .bind (.orFault _ _) fun _ =>
    .bind (.note rfl) fun _ => .pure _

theorem mute_discover (directory : Path) (exclude : List String) :
    Mute (discover directory exclude) := by
  unfold discover
  refine .bind (.inspect _) fun _ => .bind (.orFault _ _) fun found => ?_
  split
  · exact .fail _
  · exact .fail _
  · exact .bind (.inspect _) fun _ =>
      .bind (.forIn (fun _ _ => .bind (.note rfl) fun _ => .pure _) _ _) fun _ => .pure _

section Writing

variable {out : Path} {ms : List Event}

theorem shows_writeArtifact {a : Artifact} {o : Except Fault Path}
    (h : (writeArtifact out a).Shows o ms) :
    (o = .ok (a.path out) ∧ ms = [.wrote (a.path out)]) ∨ ∃ e, o = .error e ∧ ms = [] := by
  unfold writeArtifact at h
  rcases h.bind_of_mute (.makeDirectories _ _) with ⟨_, -, h⟩ | h
  · rcases h.bind_of_mute (.write _ _ _) with ⟨_, -, h⟩ | h
    · rcases h.bind with ⟨_, first, rest, hnote, hrest, rfl⟩ | ⟨e, -, he⟩
      · obtain ⟨-, rfl⟩ := hnote.note
        obtain ⟨rfl, rfl⟩ := hrest.pure
        exact .inl ⟨rfl, rfl⟩
      · cases he.note.1
    · exact .inr h
  · exact .inr h

theorem shows_classes {classes : List ClassDecl} {o : Except Fault (List Path)}
    (h : (classes.mapM fun d => writeArtifact out (.ofClass d)).Shows o ms) :
    ∃ files, ms = files.map .wrote ∧ ∀ written, o = .ok written → written = files := by
  induction classes generalizing o ms with
  | nil =>
    obtain ⟨rfl, rfl⟩ := h.pure
    exact ⟨[], rfl, fun _ h => (Except.ok.inj h).symm⟩
  | cons d classes ih =>
    rw [List.mapM_cons] at h
    rcases h.bind with ⟨file, first, rest, hd, hrest, rfl⟩ | ⟨e, rfl, he⟩
    · rcases shows_writeArtifact hd with ⟨hfile, rfl⟩ | ⟨e, he, -⟩
      · cases hfile
        rcases hrest.bind with ⟨written, ms, more, hms, hlast, rfl⟩ | ⟨e, rfl, he⟩
        · obtain ⟨files, rfl, hfiles⟩ := ih hms
          obtain rfl := hfiles _ rfl
          obtain ⟨rfl, rfl⟩ := hlast.pure
          exact ⟨_ :: written, by simp, fun _ h => (Except.ok.inj h).symm⟩
        · obtain ⟨files, rfl, -⟩ := ih he
          exact ⟨_ :: files, rfl, nofun⟩
      · cases he
    · rcases shows_writeArtifact he with ⟨h, -⟩ | ⟨_, -, rfl⟩
      · cases h
      · exact ⟨[], rfl, nofun⟩

theorem shows_fetcher {x : Traced InterfaceDecl} (hx : Emission.Builds x) {written : List Path}
    {o : Except Fault (List Path)}
    (h : Shows (do return written ++ [← writeArtifact out (.ofInterface (← traced x))]) o ms) :
    ∃ files, ms = files.map .wrote ∧ ∀ all, o = .ok all → all = written ++ files := by
  rcases h.bind_of_mute (.traced hx) with ⟨i, -, hwrite⟩ | ⟨e, rfl, rfl⟩
  · rcases hwrite.bind with ⟨last, first, rest, hlast, hend, rfl⟩ | ⟨e, rfl, he⟩
    · rcases shows_writeArtifact hlast with ⟨hfile, rfl⟩ | ⟨e, he, -⟩
      · cases hfile
        obtain ⟨rfl, rfl⟩ := hend.pure
        exact ⟨[_], rfl, fun _ h => (Except.ok.inj h).symm⟩
      · cases he
    · rcases shows_writeArtifact he with ⟨h, -⟩ | ⟨_, -, rfl⟩
      · cases h
      · exact ⟨[], rfl, nofun⟩
  · exact ⟨[], rfl, nofun⟩

theorem shows_fromFile {c : Config} {file : Path} {o : Except Fault (List Path)}
    (h : (fromFile c file).Shows o ms) :
    ∃ files, ms = .processing file :: files.map .wrote ∧
      ∀ written, o = .ok written → written = files := by
  unfold fromFile at h
  rcases h.bind with ⟨_, first, rest, hnote, hload, rfl⟩ | ⟨e, -, he⟩
  · obtain ⟨-, rfl⟩ := hnote.note
    rcases hload.bind_of_mute (mute_load file) with ⟨doc, -, hbuild⟩ | ⟨e, rfl, rfl⟩
    · rcases hbuild.bind_of_mute (.traced (Emission.builds_dataClasses _ _ _)) with
        ⟨classes, -, hwrite⟩ | ⟨e, rfl, rfl⟩
      · rcases hwrite.bind with ⟨written, first, rest, hfirst, hlast, rfl⟩ | ⟨e, rfl, he⟩
        · obtain ⟨files, rfl, hfiles⟩ := shows_classes hfirst
          obtain rfl := hfiles _ rfl
          obtain ⟨files, rfl, hall⟩ := shows_fetcher (Emission.builds_fetcher _ _ _) hlast
          exact ⟨written ++ files, by simp [marks], hall⟩
        · obtain ⟨files, rfl, -⟩ := shows_classes he
          exact ⟨files, rfl, nofun⟩
      · exact ⟨[], rfl, nofun⟩
    · exact ⟨[], rfl, nofun⟩
  · cases he.note.1

end Writing

def told (l : Ledger) (source file : Path) : List Event :=
  match l.lookup file with
  | some previous => if previous = source then [] else [.overwrites file source previous]
  | none => []

def toldAll (source : Path) : Ledger → List Path → List Event
  | _, [] => []
  | l, file :: files => told l source file ++ toldAll source (l.put file source) files

/-- Schema files with the files that were written from them, in order. -/
abbrev History := List (Path × List Path)

def History.writings (h : History) : List (Path × Path) := h.flatMap fun e => e.2.map (e.1, ·)

def Ledger.enter (l : Ledger) (h : History) : Ledger := h.foldl (fun l e => l.enterAll e.1 e.2) l

def story : Ledger → History → List Event
  | _, [] => []
  | l, (source, files) :: h =>
    .processing source :: files.map .wrote ++ toldAll source l files ++
      story (l.enterAll source files) h

theorem story_append (l : Ledger) (h k : History) :
    story l (h ++ k) = story l h ++ story (l.enter h) k := by
  induction h generalizing l with
  | nil => rfl
  | cons e h ih => simp [story, ih, Ledger.enter]

/-- What is told: the story of the schema files that went through and, if all did not go well, of the
one that the run stopped at only what was written from it. -/
inductive Tells {α : Type} (l : Ledger) : Except Fault α → List Event → Prop where
  | through (a : α) (h : History) : Tells l (.ok a) (story l h)
  | stopped (e : Fault) (h : History) (source : Path) (written : List Path) :
    Tells l (.error e) (story l h ++ .processing source :: written.map .wrote)

namespace Tells

variable {α β : Type} {l : Ledger} {ms : List Event}

theorem of_ok {a : α} (h : Tells l (.ok a) ms) (b : β) : Tells l (.ok b) ms := by
  cases h with
  | through _ h => exact .through b h

theorem of_error {e : Fault} (h : Tells l (.error e : Except Fault α) ms) :
    Tells l (.error e : Except Fault β) ms := by
  cases h with
  | stopped _ h source written => exact .stopped e h source written

theorem cons {o : Except Fault α} {source : Path} {files : List Path}
    (h : Tells (l.enterAll source files) o ms) :
    Tells l o (story l [(source, files)] ++ ms) := by
  cases h with
  | through a h =>
    have hstory : story l [(source, files)] ++ story (l.enterAll source files) h =
        story l ((source, files) :: h) := (story_append l [(source, files)] h).symm
    exact hstory ▸ .through a _
  | stopped e h last written =>
    have hstory : story l [(source, files)] ++ story (l.enterAll source files) h =
        story l ((source, files) :: h) := (story_append l [(source, files)] h).symm
    rw [← List.append_assoc, hstory]
    exact .stopped e _ last written

end Tells

section Shows

variable {ms : List Event}

theorem shows_record {l : Ledger} {source file : Path} {o : Except Fault Ledger}
    (h : (l.record source file).Shows o ms) :
    o = .ok (l.put file source) ∧ ms = told l source file := by
  unfold Ledger.record at h
  unfold told
  cases hl : l.lookup file with
  | none =>
    rw [hl] at h
    exact h.pure
  | some previous =>
    rw [hl] at h
    by_cases hne : previous = source
    · simp only [hne, bne_self_eq_false, Bool.false_eq_true, if_false] at h
      simpa [hne] using h.pure
    · simp only [bne_iff_ne, ne_eq, hne, not_false_eq_true, if_true] at h
      rcases h.bind with ⟨_, first, rest, hnote, hrest, rfl⟩ | ⟨e, -, he⟩
      · obtain ⟨-, rfl⟩ := hnote.note
        obtain ⟨rfl, rfl⟩ := hrest.pure
        exact ⟨rfl, (if_neg hne).symm⟩
      · cases he.note.1

theorem shows_records {l : Ledger} {source : Path} {files : List Path} {o : Except Fault Ledger}
    (h : (files.foldlM (fun (l : Ledger) file => l.record source file) l).Shows o ms) :
    o = .ok (l.enterAll source files) ∧ ms = toldAll source l files := by
  induction files generalizing l ms with
  | nil => exact h.pure
  | cons file files ih =>
    rw [List.foldlM_cons] at h
    rcases h.bind with ⟨m, first, rest, hfile, hrest, rfl⟩ | ⟨e, -, he⟩
    · obtain ⟨hm, rfl⟩ := shows_record hfile
      cases hm
      obtain ⟨rfl, rfl⟩ := ih hrest
      exact ⟨rfl, rfl⟩
    · cases (shows_record he).1

/-- A fault comes before the warnings for the schema file. -/
theorem shows_step {c : Config} {l : Ledger} {file : Path} {o : Except Fault Ledger}
    (h : (step c l file).Shows o ms) : ∃ files,
    (o = .ok (l.enterAll file files) ∧ ms = story l [(file, files)]) ∨
      ∃ e, o = .error e ∧ ms = .processing file :: files.map .wrote := by
  unfold step at h
  rcases h.bind with ⟨written, first, rest, hfrom, hrest, rfl⟩ | ⟨e, rfl, he⟩
  · obtain ⟨files, rfl, hfiles⟩ := shows_fromFile hfrom
    obtain rfl := hfiles _ rfl
    obtain ⟨rfl, rfl⟩ := shows_records hrest
    exact ⟨written, .inl ⟨rfl, by simp [story]⟩⟩
  · obtain ⟨files, rfl, -⟩ := shows_fromFile he
    exact ⟨files, .inr ⟨e, rfl, rfl⟩⟩

theorem shows_steps {c : Config} {l : Ledger} {files : List Path} {o : Except Fault Ledger}
    (h : (files.foldlM (step c) l).Shows o ms) : Tells l o ms := by
  induction files generalizing l ms with
  | nil =>
    obtain ⟨rfl, rfl⟩ := h.pure
    exact .through l []
  | cons file files ih =>
    rw [List.foldlM_cons] at h
    rcases h.bind with ⟨m, first, rest, hfile, hrest, rfl⟩ | ⟨e, rfl, he⟩
    · obtain ⟨written, ⟨hm, rfl⟩ | ⟨e, he, -⟩⟩ := shows_step hfile
      · cases hm
        exact (ih hrest).cons
      · cases he
    · obtain ⟨written, ⟨h, -⟩ | ⟨_, -, rfl⟩⟩ := shows_step he
      · cases h
      · exact .stopped e [] file written

theorem shows_run {c : Config} {o : Except Fault Result} (h : (run c).Shows o ms) :
    Tells [] o ms ∨ ∃ e, o = .error e ∧ ms = [] := by
  unfold run at h
  rcases h.bind_of_mute (mute_discover _ _) with ⟨files, -, hfound⟩ | hnone
  · rcases hfound.bind_of_mute (.note rfl) with ⟨_, -, hloop⟩ | hnone
    · rcases hloop.bind with ⟨l, first, rest, hsteps, hrest, rfl⟩ | ⟨e, rfl, he⟩
      · rcases hrest.bind with ⟨_, note, last, hnote, hlast, rfl⟩ | ⟨e, -, he⟩
        · obtain ⟨-, rfl⟩ := hnote.note
          obtain ⟨rfl, rfl⟩ := hlast.pure
          refine .inl ?_
          simpa [marks] using (shows_steps hsteps).of_ok _
        · cases he.note.1
      · exact .inl (shows_steps he).of_error
    · exact .inr hnone
  · exact .inr hnone

end Shows

theorem writingsFrom_wrote (source : Path) (files : List Path) (es : List Event) :
    writingsFrom (some source) (files.map .wrote ++ es) =
      files.map (source, ·) ++ writingsFrom (some source) es := by
  induction files with
  | nil => rfl
  | cons file files ih => simp [writingsFrom, ih]

theorem writingsFrom_toldAll (source : Option Path) (l : Ledger) (f : Path) (files : List Path)
    (es : List Event) : writingsFrom source (toldAll f l files ++ es) = writingsFrom source es := by
  induction files generalizing l with
  | nil => rfl
  | cons file files ih =>
    rw [toldAll, List.append_assoc, told]
    split
    · split
      · exact ih _
      · exact ih _
    · exact ih _

/-- The story tells what was written from where, and what comes after it is read on. -/
theorem writingsFrom_story (source : Option Path) (l : Ledger) (h : History) :
    ∃ last, ∀ es, writingsFrom source (story l h ++ es) = h.writings ++ writingsFrom last es := by
  induction h generalizing source l with
  | nil => exact ⟨source, fun _ => rfl⟩
  | cons e h ih =>
    obtain ⟨f, files⟩ := e
    obtain ⟨last, hlast⟩ := ih (some f) (l.enterAll f files)
    refine ⟨last, fun es => ?_⟩
    simp only [story, List.append_assoc, List.cons_append, writingsFrom, writingsFrom_wrote,
      writingsFrom_toldAll, hlast, History.writings, List.flatMap_cons]

theorem writings_story (l : Ledger) (h : History) : writings (story l h) = h.writings := by
  obtain ⟨last, hlast⟩ := writingsFrom_story none l h
  rw [writings, ← List.append_nil (story l h), hlast, writingsFrom, List.append_nil]

theorem writings_stopped (l : Ledger) (h : History) (source : Path) (files : List Path) :
    writings (story l h ++ .processing source :: files.map .wrote) =
      h.writings ++ files.map (source, ·) := by
  obtain ⟨last, hlast⟩ := writingsFrom_story none l h
  have hfiles := writingsFrom_wrote source files []
  rw [List.append_nil] at hfiles
  rw [writings, hlast, writingsFrom, hfiles, writingsFrom, List.append_nil]

theorem processed_wrote (files : List Path) : processed (files.map .wrote) = [] := by
  simp [processed]

theorem processed_toldAll (source : Path) (l : Ledger) (files : List Path) :
    processed (toldAll source l files) = [] := by
  induction files generalizing l with
  | nil => rfl
  | cons file files ih =>
    rw [toldAll, processed_append, ih, told]
    split
    · split <;> rfl
    · rfl

theorem processed_story (l : Ledger) (h : History) : processed (story l h) = h.map (·.1) := by
  induction h generalizing l with
  | nil => rfl
  | cons e h ih =>
    obtain ⟨source, files⟩ := e
    rw [story, processed_append, processed_append, processed_toldAll, ih, ← List.singleton_append,
      processed_append, processed_wrote]
    rfl

theorem processed_stopped (l : Ledger) (h : History) (source : Path) (files : List Path) :
    processed (story l h ++ .processing source :: files.map .wrote) = h.map (·.1) ++ [source] := by
  rw [processed_append, processed_story, ← List.singleton_append, processed_append,
    processed_wrote]
  rfl

section On

variable {α β : Type} {t u : FileTree} {es : List Event}

theorem shows_on (x : Run α) (t : FileTree) : x.Shows (x.on t).outcome (marks (x.on t).events) :=
  ⟨.ofFiles t, rfl, rfl⟩

theorem marks_bind_of_ok {x : Run α} {a : α} (h : x.Ends t (.ok a) es u) (f : α → Run β) :
    marks ((x >>= f).on t).events = marks (x.on t).events ++ marks ((f a).on u).events := by
  rw [Ends.on_bind_of_ok h.outcome h.after, ← marks_append]
  exact congrArg marks List.filterMap_append

theorem marks_bind_of_error {x : Run α} {e : Fault} (h : x.Ends t (.error e) es u)
    (f : α → Run β) : marks ((x >>= f).on t).events = marks (x.on t).events := by
  rw [Ends.on_bind_of_error h.outcome]
  rfl

theorem marks_bind_of_mute {x : Run α} (hx : Mute x) {a : α} (h : x.Ends t (.ok a) es u)
    (f : α → Run β) : marks ((x >>= f).on t).events = marks ((f a).on u).events := by
  rw [marks_bind_of_ok h, hx.shows (shows_on x t), List.nil_append]

theorem marks_bind_mute (x : Run α) {f : α → Run β} (hf : ∀ a, Mute (f a)) (t : FileTree) :
    marks ((x >>= f).on t).events = marks (x.on t).events := by
  simp only [Run.on, bind_apply]
  cases hx : (x (.ofFiles t)).outcome with
  | error e => rfl
  | ok a =>
    have hrest : marks ((f a (x (.ofFiles t)).after).events) = [] := hf a _
    rw [← List.append_nil (marks (x (.ofFiles t)).events), ← hrest, ← marks_append]
    exact congrArg marks List.filterMap_append

variable {c : Config} {file : Path}

theorem marks_step {files : List Path} (h : (fromFile c file).Ends t (.ok files) es u)
    (l : Ledger) : marks ((step c l file).on t).events = story l [(file, files)] := by
  obtain ⟨written, hmarks, hfiles⟩ := shows_fromFile (shows_on (fromFile c file) t)
  obtain rfl := hfiles _ h.outcome
  rw [step, marks_bind_of_ok h, hmarks, (shows_records (shows_on _ u)).2]
  simp [story]

/-- A schema file whose interface cannot be built leaves its classes. -/
theorem marks_step_of_classes {doc : GraphQL.Document} {classes : List ClassDecl}
    {files : List Path} {e : Fault} (hdoc : document t file = .ok doc)
    (hclasses : (Emission.dataClasses c.packageName doc (some file.name)).outcome = .ok classes)
    (hwrite : (classes.mapM fun d => writeArtifact c.outputDir (.ofClass d)).Ends t (.ok files) [] u)
    (hfetcher : (Emission.fetcher c.packageName doc file.name).outcome = .error e) (l : Ledger) :
    (step c l file).Ends t (.error e) [.processing file] u ∧
      marks ((step c l file).on t).events = .processing file :: files.map .wrote := by
  have hload := load_ends t file
  have hbuild := traced_ends (Emission.builds_dataClasses c.packageName doc (some file.name)) t
  have hfetch := traced_ends (Emission.builds_fetcher c.packageName doc file.name) u
  rw [hdoc] at hload
  rw [hclasses] at hbuild
  rw [hfetcher] at hfetch
  have hnote : (Run.note (.processing file)).Ends t (.ok ()) [.processing file] t := .note rfl t
  have hfrom := fromFile_ends_unbuilt hdoc hclasses hwrite hfetcher
  refine ⟨hfrom.bind_error _, ?_⟩
  obtain ⟨written, hmarks, hfiles⟩ := shows_classes (shows_on _ t)
  obtain rfl := hfiles _ hwrite.outcome
  rw [step, marks_bind_of_error hfrom, fromFile, marks_bind_of_ok hnote,
    marks_bind_of_mute (mute_load file) hload,
    marks_bind_of_mute (.traced (Emission.builds_dataClasses _ _ _)) hbuild,
    marks_bind_of_ok hwrite, hmarks, marks_bind_of_error hfetch,
    (Mute.traced (Emission.builds_fetcher _ _ _)).shows (shows_on _ u), List.append_nil]
  rfl

theorem marks_run {files : List Path} (h : schemaFiles c t = .ok files) :
    marks ((run c).on t).events = marks ((files.foldlM (step c) []).on t).events := by
  rw [run, marks_bind_of_mute (mute_discover _ _) (discover_ends_schemaFiles h),
    marks_bind_of_mute (.note rfl) (.note rfl t)]
  exact marks_bind_mute _ (fun _ => .bind (.note rfl) fun _ => .pure _) t

end On

def Plan.history (out : Path) (p : Plan) : History := p.map fun e => (e.1, e.2.map (·.path out))

theorem marks_steps {c : Config} {t u : FileTree} {taken : List Path} {p : Plan}
    (h : Reached c t taken p u) (ht : t.WellFormed) (hb : isPackageName c.packageName = true)
    {files : List Path} (hfiles : Pending t taken files) {q : Plan}
    (hq : planned c t files = .ok q) {l : Ledger}
    (hok : ((files.foldlM (step c) (.after c.outputDir p)).on u).outcome = .ok l) :
    marks ((files.foldlM (step c) (.after c.outputDir p)).on u).events =
      story (.after c.outputDir p) (q.history c.outputDir) := by
  induction files generalizing taken p u q with
  | nil =>
    obtain rfl : q = [] := List.forall₂_nil_left_iff.mp (planned_iff.mp hq)
    rfl
  | cons file rest ih =>
    obtain ⟨as, q, rfl, hgen, hrest⟩ := planned_cons hq
    obtain ⟨hfile, hnew, hpending⟩ := hfiles.next
    have hthen := h.generated_eq ht hb hfile
    rw [List.foldlM_cons] at hok ⊢
    rcases fromFile_ends h.stored.wrote.wellFormed c file with
      ⟨bs, v, hbs, hfrom, hv⟩ | ⟨e, _, v, -, hfrom, -⟩
    · obtain rfl : bs = as := Except.ok.inj (hbs.symm.trans (hthen.trans hgen))
      obtain ⟨hstep, hreached⟩ := step_ends_ok h hb hnew hgen hfrom hv
      rw [Ends.on_bind_of_ok hstep.outcome hstep.after] at hok
      rw [marks_bind_of_ok hstep, marks_step hfrom, ih hreached hpending hrest hok,
        Ledger.after_concat]
      exact (story_append _ [(file, bs.map (·.path c.outputDir))] _).symm
    · have hstop : (step c (.after c.outputDir p) file).Ends u (.error e) [.processing file] v :=
        hfrom.bind_error _
      rw [(hstop.bind_error _).outcome] at hok
      cases hok

end SchemaToJava.Generation
