import Mathlib.Data.List.Forall2
import SchemaToJava.Traced

/-!
Outcomes of computations that may fail, taken apart: a sequence succeeds if every step does, and
fails with the first step that does. The same is said of computations that report events, whose
outcomes do not depend on what is reported.
-/

namespace SchemaToJava.Outcome

variable {ε α β : Type}

theorem bind_eq_ok_iff {x : Except ε α} {f : α → Except ε β} {b : β} :
    x >>= f = .ok b ↔ ∃ a, x = .ok a ∧ f a = .ok b := by
  cases x <;> simp [bind, Except.bind]

theorem bind_eq_error_iff {x : Except ε α} {f : α → Except ε β} {e : ε} :
    x >>= f = .error e ↔ x = .error e ∨ ∃ a, x = .ok a ∧ f a = .error e := by
  cases x <;> simp [bind, Except.bind]

theorem map_eq_ok_iff {x : Except ε α} {f : α → β} {b : β} :
    x.map f = .ok b ↔ ∃ a, x = .ok a ∧ b = f a := by
  cases x <;> simp [Except.map, eq_comm]

theorem mapM_eq_ok_iff {f : α → Except ε β} {xs : List α} {ys : List β} :
    xs.mapM f = .ok ys ↔ List.Forall₂ (fun x y => f x = .ok y) xs ys := by
  induction xs generalizing ys with
  | nil =>
    rw [List.forall₂_nil_left_iff, List.mapM_nil]
    exact ⟨fun h => (Except.ok.inj h).symm, fun h => h ▸ rfl⟩
  | cons x xs ih =>
    rw [List.forall₂_cons_left_iff, List.mapM_cons, bind_eq_ok_iff]
    constructor
    · rintro ⟨y, hy, h⟩
      obtain ⟨rest, hrest, h⟩ := bind_eq_ok_iff.mp h
      exact ⟨y, rest, hy, ih.mp hrest, (Except.ok.inj h).symm⟩
    · rintro ⟨y, rest, hy, hrest, rfl⟩
      exact ⟨y, hy, bind_eq_ok_iff.mpr ⟨rest, ih.mpr hrest, rfl⟩⟩

theorem exists_of_forall₂ {R : α → β → Prop} {xs : List α} {ys : List β}
    (h : List.Forall₂ R xs ys) {y : β} (hy : y ∈ ys) : ∃ x ∈ xs, R x y := by
  induction h with
  | nil => cases hy
  | @cons x _ _ _ hx _ ih =>
    rcases List.mem_cons.mp hy with rfl | hy
    · exact ⟨x, List.mem_cons_self, hx⟩
    · obtain ⟨z, hz, hr⟩ := ih hy
      exact ⟨z, List.mem_cons_of_mem x hz, hr⟩

theorem exists_of_mapM_eq_error {f : α → Except ε β} {xs : List α} {e : ε}
    (h : xs.mapM f = .error e) :
    ∃ before x after, ∃ ys : List β,
      xs = before ++ x :: after ∧ before.mapM f = .ok ys ∧ f x = .error e := by
  induction xs with
  | nil => cases h
  | cons x xs ih =>
    rw [List.mapM_cons] at h
    rcases bind_eq_error_iff.mp h with hx | ⟨y, hy, h⟩
    · exact ⟨[], x, xs, [], rfl, rfl, hx⟩
    · rcases bind_eq_error_iff.mp h with hrest | ⟨rest, -, hpure⟩
      · obtain ⟨before, z, after, ys, rfl, hys, hz⟩ := ih hrest
        refine ⟨x :: before, z, after, y :: ys, rfl, ?_, hz⟩
        rw [List.mapM_cons]
        exact bind_eq_ok_iff.mpr ⟨y, hy, bind_eq_ok_iff.mpr ⟨ys, hys, rfl⟩⟩
      · cases hpure

/-- What every step keeps, a pass over a list keeps. -/
theorem foldlM_induct {P : β → Prop} {f : β → α → Except ε β} {xs : List α}
    (hf : ∀ b, ∀ a ∈ xs, ∀ c, P b → f b a = .ok c → P c) {b c : β} (hb : P b)
    (h : xs.foldlM f b = .ok c) : P c := by
  induction xs generalizing b with
  | nil => exact Except.ok.inj h ▸ hb
  | cons x xs ih =>
    rw [List.foldlM_cons] at h
    obtain ⟨d, hd, h⟩ := bind_eq_ok_iff.mp h
    have hrest := fun b a ha => hf b a (List.mem_cons_of_mem x ha)
    exact ih hrest (hf b x List.mem_cons_self d hb hd) h

theorem foldlM_eq_error {f : β → α → Except ε β} {before after : List α} {x : α} {b c : β} {e : ε}
    (hbefore : before.foldlM f b = .ok c) (hx : f c x = .error e) :
    (before ++ x :: after).foldlM f b = .error e := by
  rw [List.foldlM_append]
  refine bind_eq_error_iff.mpr (.inr ⟨c, hbefore, ?_⟩)
  rw [List.foldlM_cons]
  exact bind_eq_error_iff.mpr (.inl hx)

end SchemaToJava.Outcome

namespace SchemaToJava.Traced

variable {α β : Type}

@[simp] theorem outcome_fail (f : Fault) : (fail f : Traced α).outcome = .error f := rfl

@[simp] theorem events_silently (x : Except Fault α) : (silently x).events = [] := rfl

theorem outcome_mapM (f : α → Traced β) (xs : List α) :
    (xs.mapM f).outcome = xs.mapM fun x => (f x).outcome := by
  induction xs with
  | nil => rfl
  | cons x xs ih =>
    simp only [List.mapM_cons, outcome_bind, ih, outcome_pure]
    rfl

theorem outcome_foldlM (f : β → α → Traced β) (xs : List α) (b : β) :
    (xs.foldlM f b).outcome = xs.foldlM (fun b x => (f b x).outcome) b := by
  induction xs generalizing b with
  | nil => rfl
  | cons x xs ih =>
    rw [List.foldlM_cons, List.foldlM_cons, outcome_bind]
    exact congrArg _ (funext fun b => ih b)

/-- All events are of one sort, and so is the fault, if there is one. -/
structure Within (sort : Event → Prop) (cause : Fault → Prop) (x : Traced α) : Prop where
  events : ∀ e ∈ x.events, sort e
  fault : ∀ f, x.outcome = .error f → cause f

namespace Within

variable {sort : Event → Prop} {cause : Fault → Prop}

theorem pure (a : α) : Within sort cause (pure a : Traced α) :=
  ⟨by simp, by simp⟩

theorem note {e : Event} (h : sort e) : Within sort cause (note e) :=
  ⟨fun _ he => List.mem_singleton.mp he ▸ h, by simp⟩

theorem silently {x : Except Fault α} (h : ∀ f, x = .error f → cause f) :
    Within sort cause (silently x) :=
  ⟨by simp, h⟩

theorem fail {f : Fault} (h : cause f) : Within sort cause (fail f : Traced α) :=
  ⟨by simp [Traced.fail], fun _ he => Except.error.inj he ▸ h⟩

theorem bind {x : Traced α} {f : α → Traced β} (hx : Within sort cause x)
    (hf : ∀ a, Within sort cause (f a)) : Within sort cause (x >>= f) := by
  obtain ⟨es, o⟩ := x
  cases o with
  | error e => exact ⟨hx.events, fun _ he => hx.fault _ (congrArg _ (Except.error.inj he))⟩
  | ok a =>
    constructor
    · intro e he
      rcases List.mem_append.mp he with he | he
      · exact hx.events e he
      · exact (hf a).events e he
    · exact fun e he => (hf a).fault e he

theorem mapM {f : α → Traced β} (hf : ∀ a, Within sort cause (f a)) (xs : List α) :
    Within sort cause (xs.mapM f) := by
  induction xs with
  | nil => exact pure []
  | cons x xs ih =>
    rw [List.mapM_cons]
    exact bind (hf x) fun _ => bind ih fun _ => pure _

theorem foldlM {f : β → α → Traced β} (hf : ∀ b a, Within sort cause (f b a)) (xs : List α)
    (b : β) : Within sort cause (xs.foldlM f b) := by
  induction xs generalizing b with
  | nil => exact pure b
  | cons x xs ih =>
    rw [List.foldlM_cons]
    exact bind (hf b x) ih

end Within

/-- What comes out satisfies `P`, if anything does. -/
def Gives (P : α → Prop) (x : Traced α) : Prop := ∀ a, x.outcome = .ok a → P a

namespace Gives

variable {P : α → Prop} {Q : β → Prop}

theorem pure {a : α} (h : P a) : (pure a : Traced α).Gives P := by
  intro b hb
  cases hb
  exact h

theorem silently {x : Except Fault α} (h : ∀ a, x = .ok a → P a) : (silently x).Gives P := h

theorem fail (f : Fault) : (fail f : Traced α).Gives P := by
  intro a ha
  cases ha

theorem bind {x : Traced α} {f : α → Traced β} (hx : x.Gives P) (hf : ∀ a, P a → (f a).Gives Q) :
    (x >>= f).Gives Q := by
  intro b hb
  rw [outcome_bind] at hb
  obtain ⟨a, ha, hb⟩ := Outcome.bind_eq_ok_iff.mp hb
  exact hf a (hx a ha) b hb

theorem note {e : Event} {x : Traced α} (hx : x.Gives P) : (note e >>= fun _ => x).Gives P := by
  intro a ha
  rw [outcome_bind] at ha
  obtain ⟨_, -, ha⟩ := Outcome.bind_eq_ok_iff.mp ha
  exact hx a ha

theorem mapM {f : α → Traced β} {xs : List α} (hf : ∀ a ∈ xs, (f a).Gives Q) :
    (xs.mapM f).Gives fun bs => ∀ b ∈ bs, Q b := by
  induction xs with
  | nil => exact pure (by simp)
  | cons x xs ih =>
    rw [List.mapM_cons]
    refine bind (hf x List.mem_cons_self) fun b hb => ?_
    refine bind (ih fun a ha => hf a (List.mem_cons_of_mem x ha)) fun bs hbs => ?_
    exact pure (List.forall_mem_cons.mpr ⟨hb, hbs⟩)

theorem foldlM {f : β → α → Traced β} {xs : List α} (hf : ∀ b, ∀ a ∈ xs, Q b → (f b a).Gives Q)
    {b : β} (hb : Q b) : (xs.foldlM f b).Gives Q := by
  induction xs generalizing b with
  | nil => exact pure hb
  | cons x xs ih =>
    rw [List.foldlM_cons]
    exact bind (hf b x List.mem_cons_self hb) fun c hc =>
      ih (fun b a ha => hf b a (List.mem_cons_of_mem x ha)) hc

end Gives

end SchemaToJava.Traced
