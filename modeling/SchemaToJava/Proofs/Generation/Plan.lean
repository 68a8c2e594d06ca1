import SchemaToJava.Generation
import SchemaToJava.Proofs.Emission.Artifacts
import SchemaToJava.Proofs.SchemaFile

/-!
What a run is about to generate, read off the files as they are before it. The ledger of a run, its
warnings and the files it leaves are all told by the plan.
-/

namespace SchemaToJava.Generation

open Java SchemaFile

def generated (c : Config) (t : FileTree) (file : Path) : Except Fault (List Artifact) := do
  Emission.artifacts c.packageName (← document t file) file.name

/-- Schema files with what is generated from them, in order. -/
abbrev Plan := List (Path × List Artifact)

def planned (c : Config) (t : FileTree) (files : List Path) : Except Fault Plan :=
  files.mapM fun file => do return (file, ← generated c t file)

def processed (es : List Event) : List Path :=
  es.filterMap fun
    | .processing file => some file
    | _ => none

theorem processed_append (es fs : List Event) : processed (es ++ fs) = processed es ++ processed fs :=
  List.filterMap_append

theorem processed_filter (es : List Event) :
    processed (es.filter (·.isVisible .info)) = processed es := by
  induction es with
  | nil => rfl
  | cons e rest ih =>
    cases e <;> simp_all [processed, Event.isVisible, Event.level, Level.rank]

namespace Plan

def artifacts (p : Plan) : List Artifact := p.flatMap (·.2)

def paths (p : Plan) (out : Path) : List Path := p.artifacts.map (·.path out)

/-- The last schema file that the given file is generated from. -/
def latest? (p : Plan) (out file : Path) : Option Path :=
  (p.reverse.find? fun e => (e.2.map (·.path out)).contains file).map (·.1)

/-- The warnings for what is generated from `source`, when `earlier` has been generated before. -/
def overwrites (earlier : Plan) (out source : Path) (as : List Artifact) : List Event :=
  as.filterMap fun a =>
    (earlier.latest? out (a.path out)).map (.overwrites (a.path out) source)

def warnings (out : Path) : (earlier : Plan) → Plan → List Event
  | _, [] => []
  | earlier, (source, as) :: rest =>
    earlier.overwrites out source as ++ warnings out (earlier ++ [(source, as)]) rest

/-- The notices for a plan: schema files as they are taken, and the warnings for each. -/
def notices (out : Path) : (earlier : Plan) → Plan → List Event
  | _, [] => []
  | earlier, (source, as) :: rest =>
    .processing source :: earlier.overwrites out source as ++
      notices out (earlier ++ [(source, as)]) rest

@[simp] theorem artifacts_nil : artifacts [] = [] := rfl

@[simp] theorem artifacts_append (p q : Plan) :
    (p ++ q).artifacts = p.artifacts ++ q.artifacts := List.flatMap_append

@[simp] theorem artifacts_singleton (e : Path × List Artifact) : artifacts [e] = e.2 := by
  simp [artifacts]

theorem latest?_concat (p : Plan) (out source : Path) (as : List Artifact) (file : Path) :
    latest? (p ++ [(source, as)]) out file =
      if file ∈ as.map (·.path out) then some source else p.latest? out file := by
  rw [latest?, List.reverse_append, List.reverse_singleton, List.singleton_append, List.find?_cons]
  by_cases h : file ∈ as.map (·.path out)
  · simp [h]
  · have hc : (as.map (·.path out)).contains file = false := by simpa using h
    simp only [h, if_false, hc]
    rfl

theorem latest?_append (p q : Plan) (out file : Path) :
    latest? (p ++ q) out file = (q.latest? out file).or (p.latest? out file) := by
  rw [latest?, List.reverse_append, List.find?_append, Option.map_or]
  rfl

theorem latest?_eq_none_iff {p : Plan} {out file : Path} :
    p.latest? out file = none ↔ ∀ e ∈ p, file ∉ e.2.map (·.path out) := by
  simp only [latest?, Option.map_eq_none_iff, List.find?_eq_none, List.mem_reverse,
    List.contains_iff_mem]

theorem level_of_mem_overwrites {earlier : Plan} {out source : Path} {as : List Artifact}
    {e : Event} (h : e ∈ earlier.overwrites out source as) : e.level = .warning := by
  obtain ⟨a, -, ha⟩ := List.mem_filterMap.mp h
  obtain ⟨previous, -, rfl⟩ := Option.map_eq_some_iff.mp ha
  rfl

theorem filter_notices (out : Path) (earlier p : Plan) :
    (notices out earlier p).filter (·.level == .warning) = warnings out earlier p := by
  induction p generalizing earlier with
  | nil => rfl
  | cons e rest ih =>
    obtain ⟨source, as⟩ := e
    have hall : (earlier.overwrites out source as).filter (·.level == .warning) =
        earlier.overwrites out source as := by
      rw [List.filter_eq_self]
      intro e he
      rw [level_of_mem_overwrites he]
      rfl
    rw [notices, List.cons_append, List.filter_cons_of_neg (by simp [Event.level]),
      List.filter_append, hall, ih, warnings]

theorem warnings_append (out : Path) (earlier p q : Plan) :
    warnings out earlier (p ++ q) = warnings out earlier p ++ warnings out (earlier ++ p) q := by
  induction p generalizing earlier with
  | nil => simp [warnings]
  | cons e rest ih =>
    obtain ⟨source, as⟩ := e
    simp [warnings, ih]

theorem processed_overwrites (earlier : Plan) (out source : Path) (as : List Artifact) :
    processed (earlier.overwrites out source as) = [] := by
  unfold processed
  rw [List.filterMap_eq_nil_iff]
  intro e he
  obtain ⟨a, -, ha⟩ := List.mem_filterMap.mp he
  obtain ⟨previous, -, rfl⟩ := Option.map_eq_some_iff.mp ha
  rfl

theorem processed_notices (out : Path) (earlier p : Plan) :
    processed (notices out earlier p) = p.map (·.1) := by
  induction p generalizing earlier with
  | nil => rfl
  | cons e rest ih =>
    obtain ⟨source, as⟩ := e
    rw [notices, processed_append, ih, List.map_cons]
    exact congrArg (source :: · ++ _) (processed_overwrites earlier out source as)

end Plan

namespace Ledger

def enterAll (l : Ledger) (source : Path) (files : List Path) : Ledger :=
  files.foldl (fun l file => l.put file source) l

theorem lookup_enterAll (l : Ledger) (source : Path) (files : List Path) (file : Path) :
    (l.enterAll source files).lookup file =
      if file ∈ files then some source else l.lookup file := by
  induction files generalizing l with
  | nil => simp [enterAll]
  | cons f rest ih =>
    have hstep : l.enterAll source (f :: rest) = enterAll (l.put f source) source rest := rfl
    rw [hstep, ih, Entries.lookup_put]
    by_cases hrest : file ∈ rest
    · simp [hrest]
    · by_cases hf : file = f <;> simp [hrest, hf]

theorem keys_enterAll {l : Ledger} {done : List Path} (h : l.keys = done.eraseDups)
    (source : Path) (files : List Path) :
    (l.enterAll source files).keys = (done ++ files).eraseDups := by
  induction files generalizing l done with
  | nil => simpa [enterAll] using h
  | cons f rest ih =>
    have hput : (l.put f source).keys = (done ++ [f]).eraseDups := by
      rw [Entries.keys_put, h, List.eraseDups_append]
      by_cases hf : f ∈ done
      · simp [hf, List.mem_eraseDups, List.removeAll]
      · simp [hf, List.mem_eraseDups, List.removeAll, List.eraseDups_cons]
    have hrest := ih hput
    rw [List.append_assoc, List.singleton_append] at hrest
    exact hrest

def after (out : Path) (p : Plan) : Ledger :=
  p.foldl (fun l e => l.enterAll e.1 (e.2.map (·.path out))) []

theorem after_concat (out : Path) (p : Plan) (source : Path) (as : List Artifact) :
    after out (p ++ [(source, as)]) = (after out p).enterAll source (as.map (·.path out)) := by
  rw [after, List.foldl_append]
  rfl

theorem lookup_after (out : Path) (p : Plan) (file : Path) :
    (after out p).lookup file = p.latest? out file := by
  induction p using List.reverseRecOn with
  | nil => rfl
  | append_singleton p e ih =>
    obtain ⟨source, as⟩ := e
    rw [after_concat, lookup_enterAll, ih, Plan.latest?_concat]

theorem keys_after (out : Path) (p : Plan) : (after out p).keys = (p.paths out).eraseDups := by
  induction p using List.reverseRecOn with
  | nil => rfl
  | append_singleton p e ih =>
    obtain ⟨source, as⟩ := e
    rw [after_concat, keys_enterAll ih]
    simp [Plan.paths]

theorem nodup_keys_after (out : Path) (p : Plan) : (after out p).keys.Nodup := by
  refine List.foldlRecOn p _ (motive := fun l : Ledger => l.keys.Nodup) List.nodup_nil ?_
  intro l hl e _
  exact List.foldlRecOn _ _ (motive := fun l : Ledger => l.keys.Nodup) hl fun m hm file _ =>
    Entries.nodup_keys_put hm file e.1

end Ledger

end SchemaToJava.Generation
