import SchemaToJava.Proofs.Emission.DataType

/-!
Fields added to one type call by call. A call that fails leaves the fields before the repeated one,
and the next call goes on from there; whatever the calls are, no name is there twice and no field
moves.
-/

namespace SchemaToJava.Emission.DataType

namespace Adds

variable {d e : DataType} {fs : List DataField} {outcome : Except Fault DataType}

theorem name_eq (h : Adds d fs e outcome) : e.name = d.name := by
  cases h <;> rfl

theorem keeps (h : Adds d fs e outcome) : d.fields <+: e.fields := by
  cases h <;> exact List.prefix_append _ _

theorem nodup (h : Adds d fs e outcome) (hd : (fieldNames d.fields).Nodup) :
    (fieldNames e.fields).Nodup := by
  cases h with
  | all hfresh => exact nodup_append_iff.mpr ⟨hd, hfresh⟩
  | part _ hfresh _ => exact nodup_append_iff.mpr ⟨hd, hfresh⟩

theorem succeeds_iff (h : Adds d fs e outcome) : outcome = .ok e ↔ Fresh d.fields fs := by
  cases h with
  | all hfresh => exact ⟨fun _ => hfresh, fun _ => rfl⟩
  | part hfs _ htaken =>
    constructor
    · intro heq
      cases heq
    · intro hfresh
      rw [hfs] at hfresh
      exact absurd htaken hfresh.not_taken

theorem fields_of_fresh (h : Adds d fs e outcome) (hfresh : Fresh d.fields fs) :
    e.fields = d.fields ++ fs := by
  cases h with
  | all _ => rfl
  | part hfs _ htaken =>
    rw [hfs] at hfresh
    exact absurd htaken hfresh.not_taken

/-- A call that fails has come to the first field whose name is taken. -/
theorem taken_of_not_fresh (h : Adds d fs e outcome) (hfs : ¬ Fresh d.fields fs) :
    ∃ before g after, fs = before ++ g :: after ∧ Fresh d.fields before ∧
      g.name ∈ fieldNames (d.fields ++ before) ∧ e.fields = d.fields ++ before ∧
      outcome = .error (.duplicateField d.name g.name) := by
  cases h with
  | all hfresh => exact absurd hfresh hfs
  | part hsplit hfresh htaken => exact ⟨_, _, _, hsplit, hfresh, htaken, rfl, rfl⟩

end Adds

/-- A type after some calls. Each call finds it as the one before has left it, also if that one
failed. -/
def addEach (d : DataType) (calls : List (List DataField)) : DataType :=
  calls.foldl (fun d fs => (d.add fs).1) d

theorem addEach_append (d : DataType) (calls later : List (List DataField)) :
    d.addEach (calls ++ later) = (d.addEach calls).addEach later := List.foldl_append

theorem name_addEach (d : DataType) (calls : List (List DataField)) :
    (d.addEach calls).name = d.name := by
  induction calls generalizing d with
  | nil => rfl
  | cons fs calls ih => exact (ih _).trans (d.adds fs).name_eq

theorem addEach_keeps (d : DataType) (calls : List (List DataField)) :
    d.fields <+: (d.addEach calls).fields := by
  induction calls generalizing d with
  | nil => exact List.prefix_rfl
  | cons fs calls ih => exact (d.adds fs).keeps.trans (ih _)

theorem nodup_addEach {d : DataType} (hd : (fieldNames d.fields).Nodup)
    (calls : List (List DataField)) : (fieldNames (d.addEach calls).fields).Nodup := by
  induction calls generalizing d with
  | nil => exact hd
  | cons fs calls ih => exact ih ((d.adds fs).nodup hd)

/-- After any calls the names are as distinct as at first, and no later call moves a field. A
further call succeeds exactly if its names are distinct from each other and from those present, and
then all its fields come last, in order; else those before the first repeated one do, and the fault
tells the name of that one. -/
theorem fields_of_calls (d : DataType) (calls : List (List DataField)) (fs : List DataField) :
    ((fieldNames d.fields).Nodup → (fieldNames (d.addEach calls).fields).Nodup) ∧
    (∀ later, (d.addEach calls).fields <+: (d.addEach (calls ++ later)).fields) ∧
    ((d.addEach calls).addAll fs = .ok (d.addEach (calls ++ [fs])) ↔
      Fresh (d.addEach calls).fields fs) ∧
    (Fresh (d.addEach calls).fields fs →
      (d.addEach (calls ++ [fs])).fields = (d.addEach calls).fields ++ fs) ∧
    (¬ Fresh (d.addEach calls).fields fs → ∃ before g after, fs = before ++ g :: after ∧
      Fresh (d.addEach calls).fields before ∧
      g.name ∈ fieldNames ((d.addEach calls).fields ++ before) ∧
      (d.addEach (calls ++ [fs])).fields = (d.addEach calls).fields ++ before ∧
      (d.addEach calls).addAll fs = .error (.duplicateField d.name g.name)) := by
  have hcall : Adds (d.addEach calls) fs (d.addEach (calls ++ [fs]))
      ((d.addEach calls).addAll fs) := by
    rw [addEach_append]
    exact (d.addEach calls).adds fs
  refine ⟨fun hd => nodup_addEach hd calls, fun later => ?_, hcall.succeeds_iff,
    hcall.fields_of_fresh, fun hfs => ?_⟩
  · rw [addEach_append]
    exact (d.addEach calls).addEach_keeps later
  · have htaken := hcall.taken_of_not_fresh hfs
    rwa [name_addEach] at htaken

def intFields (names : List String) : List DataField :=
  names.map fun name => ⟨name, .named "Int", []⟩

def interruptedCalls : List (List DataField) :=
  [intFields ["a", "b"], intFields ["c", "a", "d"]]

theorem fields_of_interruptedCalls :
    fieldNames (addEach ⟨"T", .object, []⟩ interruptedCalls).fields = ["a", "b", "c"] ∧
    (fieldNames (addEach ⟨"T", .object, []⟩ interruptedCalls).fields).Nodup ∧
    fieldNames (addEach ⟨"T", .object, []⟩ (interruptedCalls ++ [intFields ["d"]])).fields =
      ["a", "b", "c", "d"] ∧
    ∃ g ∈ intFields ["d", "d", "c"], (addEach ⟨"T", .object, []⟩ interruptedCalls).addAll
      (intFields ["d", "d", "c"]) = .error (.duplicateField "T" g.name) := by
  have hnames : fieldNames (addEach ⟨"T", .object, []⟩ interruptedCalls).fields =
      ["a", "b", "c"] := by decide
  obtain ⟨hnodup, -, -, hadded, -⟩ :=
    fields_of_calls ⟨"T", .object, []⟩ interruptedCalls (intFields ["d"])
  obtain ⟨-, -, -, -, hrefused⟩ :=
    fields_of_calls ⟨"T", .object, []⟩ interruptedCalls (intFields ["d", "d", "c"])
  have hfresh : Fresh (addEach ⟨"T", .object, []⟩ interruptedCalls).fields (intFields ["d"]) :=
    ⟨by decide, by rw [hnames]; decide⟩
  have hrepeated : ¬ Fresh (addEach ⟨"T", .object, []⟩ interruptedCalls).fields
      (intFields ["d", "d", "c"]) := fun h => absurd h.distinct (by decide)
  obtain ⟨before, g, after, hsplit, -, -, -, herror⟩ := hrefused hrepeated
  refine ⟨hnames, hnodup (by decide), ?_, g, ?_, herror⟩
  · rw [hadded hfresh, fieldNames_append, hnames]
    rfl
  · rw [hsplit]
    exact List.mem_append_right before List.mem_cons_self

end SchemaToJava.Emission.DataType
