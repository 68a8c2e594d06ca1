import SchemaToJava.Markup
import SchemaToJava.Traced
import SchemaToJava.Workspace

/-!
Runs: computations on files that report what they do, write to the console, and may fail. Nothing
that happened before a failure is undone.
-/

namespace SchemaToJava

inductive Output where
  | event (e : Event)
  | rule (title : String)
  | line (text : String)
  deriving DecidableEq, Repr

structure Report (α : Type) where
  outcome : Except Fault α
  outputs : List Output
  after : Workspace

namespace Report

def events {α : Type} (r : Report α) : List Event :=
  r.outputs.filterMap fun
    | .event e => some e
    | _ => none

def tree {α : Type} (r : Report α) : FileTree := r.after.files

end Report

def Run (α : Type) := Workspace → Report α

namespace Run

instance : Monad Run where
  pure a := fun w => ⟨.ok a, [], w⟩
  bind x f := fun w =>
    let r := x w
    match r.outcome with
    | .error e => ⟨.error e, r.outputs, r.after⟩
    | .ok a =>
      let s := f a r.after
      ⟨s.outcome, r.outputs ++ s.outputs, s.after⟩

def on {α : Type} (x : Run α) (t : FileTree) : Report α := x (.ofFiles t)

def fail {α : Type} (f : Fault) : Run α := fun w => ⟨.error f, [], w⟩

def put (o : Output) : Run Unit := fun w => ⟨.ok (), [o], w⟩

def note (e : Event) : Run Unit := fun w => ⟨.ok (), [.event e], w.record e⟩

def print (console : Console) (text : String) : Run Unit :=
  match console.objection? text with
  | none => put (.line text)
  | some message => fail (.console message)

def printAll (console : Console) (texts : List String) : Run Unit := texts.forM (print console)

def traced {α : Type} (x : Traced α) : Run α :=
  fun w => ⟨x.outcome, x.events.map .event, x.events.foldl .record w⟩

def inspect {α : Type} (f : FileTree → α) : Run α := fun w => ⟨.ok (f w.files), [], w⟩

/-- A failure to use a file, as `refused` if the system refused it. -/
def fileFault (refused : FileError → Fault) : FileError → Fault
  | .nullInPath => .file .nullInPath
  | e => refused e

def orFault {α ε : Type} (fault : ε → Fault) (x : Except ε α) : Run α :=
  match x with
  | .ok a => pure a
  | .error e => fail (fault e)

def makeDirectories (p : Path) (fault : FileError → Fault) : Run Unit := fun w =>
  let (files, result) := w.files.makeDirectories p
  ⟨result.mapError fault, [], { w with files }⟩

def write (p : Path) (bytes : List UInt8) (fault : FileError → Fault) : Run Unit := fun w =>
  match w.files.write p bytes with
  | .ok files => ⟨.ok (), [], { w with files }⟩
  | .error e => ⟨.error (fault e), [], w⟩

def recover {α : Type} (x : Run α) (f : Fault → Run α) : Run α := fun w =>
  let r := x w
  match r.outcome with
  | .ok _ => r
  | .error e =>
    let s := f e r.after
    ⟨s.outcome, r.outputs ++ s.outputs, s.after⟩

def atLevel {α : Type} (threshold : Level) (x : Run α) : Run α := fun w =>
  let r := x w
  { r with outputs := r.outputs.filter fun
      | .event e => e.isVisible threshold
      | _ => true }

/-- Keeps the events of a run, from a level on, in a file that is emptied first. -/
def logged {α : Type} (file : Path) (threshold : Level) (time : String) (x : Run α) : Run α := do
  write file [] .file
  let place ← orFault (fun r => .file (.refused r file)) (← inspect (·.locate file))
  fun w =>
    let r := x { w with log := some ⟨place, threshold, time, 0⟩ }
    { r with after := { r.after with log := w.log } }

@[simp] theorem pure_apply {α : Type} (a : α) (w : Workspace) :
    (pure a : Run α) w = ⟨.ok a, [], w⟩ := rfl

theorem bind_apply {α β : Type} (x : Run α) (f : α → Run β) (w : Workspace) :
    (x >>= f) w =
      match (x w).outcome with
      | .error e => ⟨.error e, (x w).outputs, (x w).after⟩
      | .ok a => ⟨(f a (x w).after).outcome, (x w).outputs ++ (f a (x w).after).outputs,
          (f a (x w).after).after⟩ := rfl

instance : LawfulMonad Run := LawfulMonad.mk' Run
  (by
    intro α x
    funext w
    simp only [Functor.map]
    rcases h : x w with ⟨o, out, u⟩
    cases o with
    | error e => simp
    | ok a => simp; exact ⟨rfl, rfl, rfl⟩)
  (by intro α β a f; funext w; simp [bind_apply])
  (by
    intro α β γ x f g
    funext w
    simp only [bind_apply]
    cases (x w).outcome with
    | error e => rfl
    | ok a =>
      simp only
      cases (f a (x w).after).outcome <;> simp [List.append_assoc])

end Run

end SchemaToJava
