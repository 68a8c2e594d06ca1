import SchemaToJava.Proofs.FileTree.Writing
import SchemaToJava.Proofs.Outcome
import SchemaToJava.Run

/-!
Runs on files alone. `Ends` says at once what a run answers, what it tells everybody and which files
it leaves; there is one rule for each way in which runs are made.
-/

namespace SchemaToJava

/-- The events of a run that are not just details, in order. -/
def Report.notices {α : Type} (r : Report α) : List Event := r.events.filter (·.isVisible .info)

def Report.warnings {α : Type} (r : Report α) : List Event :=
  r.events.filter (·.level == .warning)

def Report.errors {α : Type} (r : Report α) : List Event := r.events.filter (·.level == .error)

/-- What is of a level above the details is a notice. -/
theorem Report.filter_level {α : Type} (r : Report α) {level : Level}
    (hlevel : Level.info.rank ≤ level.rank) :
    r.events.filter (·.level == level) = r.notices.filter (·.level == level) := by
  unfold notices
  rw [List.filter_filter]
  refine List.filter_congr fun e _ => ?_
  by_cases he : e.level = level
  · simp [Event.isVisible, he, hlevel]
  · simp [he]

theorem Report.warnings_eq {α : Type} (r : Report α) :
    r.warnings = r.notices.filter (·.level == .warning) :=
  r.filter_level (by decide)

theorem Report.errors_eq {α : Type} (r : Report α) :
    r.errors = r.notices.filter (·.level == .error) :=
  r.filter_level (by decide)

namespace Console

variable {console : Console} {texts : List String} {f : Fault}

def verdict (console : Console) (texts : List String) : Except Fault Unit :=
  match texts.findSome? console.objection? with
  | none => .ok ()
  | some message => .error (.console message)

/-- The fault is the objection of the console to one of the texts. -/
def Refuses (console : Console) (texts : List String) (f : Fault) : Prop :=
  ∃ text ∈ texts, ∃ message, console.objection? text = some message ∧ f = .console message

theorem refuses_of_verdict (h : console.verdict texts = .error f) : console.Refuses texts f := by
  unfold verdict at h
  cases hfirst : texts.findSome? console.objection? with
  | none =>
    rw [hfirst] at h
    cases h
  | some message =>
    rw [hfirst] at h
    cases h
    obtain ⟨text, hmem, htext⟩ := List.exists_of_findSome?_eq_some hfirst
    exact ⟨text, hmem, message, htext, rfl⟩

theorem verdict_eq_ok (h : ∀ text ∈ texts, console.objection? text = none) :
    console.verdict texts = .ok () := by
  rw [verdict, List.findSome?_eq_none_iff.mpr h]

end Console

namespace Run

variable {α β : Type}

/-- On the files `t`, the run has the outcome `o`, gives the notices `es` and leaves the files `u`.
-/
structure Ends (x : Run α) (t : FileTree) (o : Except Fault α) (es : List Event) (u : FileTree) :
    Prop where
  outcome : (x.on t).outcome = o
  notices : (x.on t).notices = es
  after : (x.on t).after = .ofFiles u

namespace Ends

variable {t u v : FileTree} {es fs : List Event}

theorem tree {x : Run α} {o : Except Fault α} (h : x.Ends t o es u) : (x.on t).tree = u :=
  congrArg Workspace.files h.after

theorem pure (a : α) (t : FileTree) : (pure a : Run α).Ends t (.ok a) [] t := ⟨rfl, rfl, rfl⟩

theorem fail (f : Fault) (t : FileTree) : (fail f : Run α).Ends t (.error f) [] t :=
  ⟨rfl, rfl, rfl⟩

theorem note {e : Event} (h : e.isVisible .info = true) (t : FileTree) :
    (note e).Ends t (.ok ()) [e] t := by
  refine ⟨rfl, ?_, rfl⟩
  simp [Report.notices, Report.events, on, Run.note, h]

theorem detail {e : Event} (h : e.isVisible .info = false) (t : FileTree) :
    (Run.note e).Ends t (.ok ()) [] t := by
  refine ⟨rfl, ?_, rfl⟩
  simp [Report.notices, Report.events, on, Run.note, h]

theorem put {o : Output} (h : ∀ e, o ≠ .event e) (t : FileTree) : (put o).Ends t (.ok ()) [] t := by
  refine ⟨rfl, ?_, rfl⟩
  cases o with
  | event e => exact absurd rfl (h e)
  | rule title => rfl
  | line text => rfl

theorem print (console : Console) (text : String) (t : FileTree) :
    (print console text).Ends t (console.verdict [text]) [] t := by
  unfold Run.print Console.verdict
  rw [List.findSome?_singleton]
  cases console.objection? text with
  | none => exact put (fun _ => Output.noConfusion) t
  | some message => exact fail (.console message) t

theorem inspect (f : FileTree → α) (t : FileTree) : (inspect f).Ends t (.ok (f t)) [] t :=
  ⟨rfl, rfl, rfl⟩

theorem orFault_ok {ε : Type} (fault : ε → Fault) (a : α) (t : FileTree) :
    (orFault fault (.ok a)).Ends t (.ok a) [] t := ⟨rfl, rfl, rfl⟩

theorem orFault_error {ε : Type} (fault : ε → Fault) (e : ε) (t : FileTree) :
    (orFault fault (.error e : Except ε α)).Ends t (.error (fault e)) [] t := ⟨rfl, rfl, rfl⟩

theorem traced {x : Traced α} (h : ∀ e ∈ x.events, e.isVisible .info = false) (t : FileTree) :
    (traced x).Ends t x.outcome [] t := by
  refine ⟨rfl, ?_, ?_⟩
  · simp only [Report.notices, Report.events, on, Run.traced, List.filterMap_map]
    rw [List.filter_eq_nil_iff]
    intro e he
    simp only [Function.comp_def, List.filterMap_some] at he
    simp [h e he]
  · simp only [on, Run.traced]
    induction x.events with
    | nil => rfl
    | cons e es ih => exact ih

theorem makeDirectories (p : Path) (fault : FileError → Fault) (t : FileTree) :
    (makeDirectories p fault).Ends t ((t.makeDirectories p).2.mapError fault) []
      (t.makeDirectories p).1 := ⟨rfl, rfl, rfl⟩

theorem write_ok {p : Path} {bytes : List UInt8} (h : t.write p bytes = .ok u)
    (fault : FileError → Fault) : (write p bytes fault).Ends t (.ok ()) [] u := by
  unfold write
  constructor <;> simp [on, Workspace.ofFiles, h, Report.notices, Report.events]

theorem write_error {p : Path} {bytes : List UInt8} {e : FileError}
    (h : t.write p bytes = .error e) (fault : FileError → Fault) :
    (write p bytes fault).Ends t (.error (fault e)) [] t := by
  unfold write
  constructor <;> simp [on, Workspace.ofFiles, h, Report.notices, Report.events]

theorem on_bind_of_ok {x : Run α} {a : α} (h : (x.on t).outcome = .ok a)
    (hu : (x.on t).after = .ofFiles u) (f : α → Run β) :
    (x >>= f).on t = ⟨((f a).on u).outcome, (x.on t).outputs ++ ((f a).on u).outputs,
      ((f a).on u).after⟩ := by
  simp only [on] at h hu ⊢
  rw [bind_apply, h, hu]

theorem on_bind_of_error {x : Run α} {e : Fault} (h : (x.on t).outcome = .error e)
    (f : α → Run β) : (x >>= f).on t = ⟨.error e, (x.on t).outputs, (x.on t).after⟩ := by
  simp only [on] at h ⊢
  rw [bind_apply, h]

theorem bind {x : Run α} {f : α → Run β} {a : α} {o : Except Fault β}
    (hx : x.Ends t (.ok a) es u) (hf : (f a).Ends u o fs v) :
    (x >>= f).Ends t o (es ++ fs) v := by
  have hon := on_bind_of_ok hx.outcome hx.after f
  refine ⟨?_, ?_, ?_⟩
  · rw [hon]
    exact hf.outcome
  · rw [hon, Report.notices, Report.events, List.filterMap_append, List.filter_append]
    exact congrArg₂ (· ++ ·) hx.notices hf.notices
  · rw [hon]
    exact hf.after

theorem bind_error {x : Run α} {e : Fault} (hx : x.Ends t (.error e) es u) (f : α → Run β) :
    (x >>= f).Ends t (.error e) es u := by
  have hon := on_bind_of_error hx.outcome f
  exact ⟨by rw [hon], by rw [hon]; exact hx.notices, by rw [hon]; exact hx.after⟩

theorem recover_ok {x : Run α} {a : α} (h : x.Ends t (.ok a) es u) (g : Fault → Run α) :
    (recover x g).Ends t (.ok a) es u := by
  have hon : (recover x g).on t = x.on t := by
    have houtcome : (x (.ofFiles t)).outcome = .ok a := h.outcome
    simp only [on, recover, houtcome]
  exact ⟨by rw [hon, h.outcome], by rw [hon, h.notices], by rw [hon, h.after]⟩

theorem recover {x : Run α} {f : Fault} (h : x.Ends t (.error f) es u) {g : Fault → Run α}
    {o : Except Fault α} (hg : (g f).Ends u o fs v) : (recover x g).Ends t o (es ++ fs) v := by
  have hon : (Run.recover x g).on t = ⟨((g f).on u).outcome,
      (x.on t).outputs ++ ((g f).on u).outputs, ((g f).on u).after⟩ := by
    have houtcome : (x (.ofFiles t)).outcome = .error f := h.outcome
    have hafter : (x (.ofFiles t)).after = .ofFiles u := h.after
    simp only [on, Run.recover, houtcome, hafter]
  refine ⟨by rw [hon, hg.outcome], ?_, by rw [hon, hg.after]⟩
  rw [hon, Report.notices, Report.events, List.filterMap_append, List.filter_append]
  exact congrArg₂ (· ++ ·) h.notices hg.notices

theorem printAll (console : Console) (texts : List String) (t : FileTree) :
    (printAll console texts).Ends t (console.verdict texts) [] t := by
  induction texts with
  | nil => exact pure () t
  | cons text texts ih =>
    have hfirst := print console text t
    unfold Console.verdict at hfirst ih ⊢
    rw [List.findSome?_singleton] at hfirst
    rw [List.findSome?_cons]
    cases htext : console.objection? text with
    | none =>
      rw [htext] at hfirst
      exact hfirst.bind ih
    | some message =>
      rw [htext] at hfirst
      exact hfirst.bind_error _

end Ends

/-- On the files `t`, the run tells of no error itself and fails with faults of one sort only. -/
def FailsQuietly (cause : Fault → Prop) (x : Run α) (t : FileTree) : Prop :=
  ∃ o es u, x.Ends t o es u ∧ (∀ e ∈ es, e.level ≠ .error) ∧ ∀ f, o = .error f → cause f

namespace FailsQuietly

variable {cause : Fault → Prop} {t : FileTree}

theorem fault {x : Run α} (h : FailsQuietly cause x t) {f : Fault}
    (hf : (x.on t).outcome = .error f) : cause f := by
  obtain ⟨o, es, u, hends, -, ho⟩ := h
  exact ho f (hends.outcome.symm.trans hf)

theorem imp {x : Run α} {cause' : Fault → Prop} (h : FailsQuietly cause x t)
    (himp : ∀ f, cause f → cause' f) : FailsQuietly cause' x t := by
  obtain ⟨o, es, u, hends, hes, ho⟩ := h
  exact ⟨o, es, u, hends, hes, fun f hf => himp f (ho f hf)⟩

theorem of_ends {x : Run α} {o : Except Fault α} {u : FileTree} (h : x.Ends t o [] u)
    (ho : ∀ f, o = .error f → cause f) : FailsQuietly cause x t := ⟨o, [], u, h, by simp, ho⟩

theorem of_ok {x : Run α} {a : α} {u : FileTree} (h : x.Ends t (.ok a) [] u) :
    FailsQuietly cause x t := of_ends h fun f hf => by cases hf

theorem pure (a : α) : FailsQuietly cause (pure a : Run α) t := of_ok (.pure a t)

theorem note {e : Event} (h : e.level ≠ .error) : FailsQuietly cause (note e) t := by
  cases hvisible : e.isVisible .info with
  | false => exact of_ok (.detail hvisible t)
  | true =>
    refine ⟨.ok (), [e], t, .note hvisible t, by simpa using h, fun f hf => ?_⟩
    cases hf

theorem printAll {console : Console} {texts : List String}
    (h : ∀ f, console.Refuses texts f → cause f) : FailsQuietly cause (printAll console texts) t :=
  of_ends (.printAll console texts t) fun f hf => h f (Console.refuses_of_verdict hf)

theorem print {console : Console} {text : String}
    (h : ∀ f, console.Refuses [text] f → cause f) : FailsQuietly cause (print console text) t :=
  of_ends (.print console text t) fun f hf => h f (Console.refuses_of_verdict hf)

/-- Each step may be judged by the files that it finds. -/
theorem bind {x : Run α} {g : α → Run β} (hx : FailsQuietly cause x t)
    (hg : ∀ a es u, x.Ends t (.ok a) es u → FailsQuietly cause (g a) u) :
    FailsQuietly cause (x >>= g) t := by
  obtain ⟨o, es, u, hends, hes, ho⟩ := hx
  cases o with
  | error f =>
    refine ⟨.error f, es, u, hends.bind_error g, hes, fun f' h => ?_⟩
    cases h
    exact ho f rfl
  | ok a =>
    obtain ⟨o', fs, v, hends', hfs, ho'⟩ := hg a es u hends
    refine ⟨o', es ++ fs, v, hends.bind hends', fun e he => ?_, ho'⟩
    rcases List.mem_append.mp he with he | he
    · exact hes e he
    · exact hfs e he

theorem bind_of_ok {x : Run α} {g : α → Run β} {a : α} {u : FileTree}
    (hx : x.Ends t (.ok a) [] u) (hg : FailsQuietly cause (g a) u) :
    FailsQuietly cause (x >>= g) t := by
  obtain ⟨o, fs, v, hends, hfs, ho⟩ := hg
  exact ⟨o, fs, v, hx.bind hends, hfs, ho⟩

theorem mapM {g : α → Run β} {xs : List α} (h : ∀ a ∈ xs, ∀ t, FailsQuietly cause (g a) t)
    (t : FileTree) : FailsQuietly cause (xs.mapM g) t := by
  induction xs generalizing t with
  | nil => exact pure []
  | cons a xs ih =>
    rw [List.mapM_cons]
    refine bind (h a List.mem_cons_self t) fun b _ u _ => ?_
    exact bind (ih (fun c hc => h c (List.mem_cons_of_mem a hc)) u) fun bs _ _ _ => pure (b :: bs)

theorem foldlM {g : β → α → Run β} {xs : List α}
    (h : ∀ b, ∀ a ∈ xs, ∀ t, FailsQuietly cause (g b a) t) (b : β) (t : FileTree) :
    FailsQuietly cause (xs.foldlM g b) t := by
  induction xs generalizing b t with
  | nil => exact pure b
  | cons a xs ih =>
    rw [List.foldlM_cons]
    exact bind (h b a List.mem_cons_self t) fun c _ u _ =>
      ih (fun d e he => h d e (List.mem_cons_of_mem a he)) c u

theorem makeDirectories {p : Path} {fault : FileError → Fault}
    (h : ∀ e, (FileTree.makeDirectories t p).2 = .error e → cause (fault e)) :
    FailsQuietly cause (makeDirectories p fault) t := by
  refine of_ends (.makeDirectories p fault t) fun f hf => ?_
  cases hresult : (FileTree.makeDirectories t p).2 with
  | ok _ =>
    rw [hresult] at hf
    cases hf
  | error e =>
    rw [hresult] at hf
    cases hf
    exact h e hresult

theorem write {p : Path} {bytes : List UInt8} {fault : FileError → Fault}
    (h : ∀ e, FileTree.write t p bytes = .error e → cause (fault e)) :
    FailsQuietly cause (write p bytes fault) t := by
  cases hresult : FileTree.write t p bytes with
  | ok u => exact of_ok (.write_ok hresult fault)
  | error e =>
    refine of_ends (.write_error hresult fault) fun f hf => ?_
    cases hf
    exact h e hresult

end FailsQuietly

end Run

end SchemaToJava
