import SchemaToJava.Proofs.Outcome

/-!
Two runs side by side. They agree if they come to results that stand in a given relation, or to one
and the same fault; and they agree if their steps do. A list that was thinned lacks some items that
do not count, and what is made of the others agrees with what is made of the whole list.
-/

namespace SchemaToJava

variable {α β γ δ : Type}

namespace Outcome

variable {ε : Type}

inductive Agree (S : α → β → Prop) : Except ε α → Except ε β → Prop
  | ok {a : α} {b : β} (h : S a b) : Agree S (.ok a) (.ok b)
  | error (e : ε) : Agree S (.error e) (.error e)

namespace Agree

variable {R : α → β → Prop} {S : γ → δ → Prop}

theorem mono {T : α → β → Prop} {x : Except ε α} {y : Except ε β} (h : Agree R x y)
    (hR : ∀ a b, R a b → T a b) : Agree T x y := by
  cases h with
  | ok h => exact .ok (hR _ _ h)
  | error e => exact .error e

theorem refl (x : Except ε α) : Agree (fun a b => b = a) x x := by
  cases x with
  | ok a => exact .ok rfl
  | error e => exact .error e

theorem and {P : α → Prop} {x : Except ε α} {y : Except ε β} (h : Agree R x y)
    (hP : ∀ a, x = .ok a → P a) : Agree (fun a b => R a b ∧ P a) x y := by
  cases h with
  | ok h => exact .ok ⟨h, hP _ rfl⟩
  | error e => exact .error e

theorem eq {x y : Except ε α} (h : Agree (fun a b => b = a) x y) : y = x := by
  cases h with
  | ok h => rw [h]
  | error e => rfl

theorem bind {x : Except ε α} {y : Except ε β} {f : α → Except ε γ} {g : β → Except ε δ}
    (h : Agree R x y) (hf : ∀ a b, R a b → Agree S (f a) (g b)) : Agree S (x >>= f) (y >>= g) := by
  cases h with
  | ok h => exact hf _ _ h
  | error e => exact .error e

theorem mapM {f : α → Except ε γ} {g : β → Except ε δ} {xs : List α} {ys : List β}
    (h : List.Forall₂ R xs ys) (hf : ∀ a b, R a b → Agree S (f a) (g b)) :
    Agree (List.Forall₂ S) (xs.mapM f) (ys.mapM g) := by
  induction h with
  | nil => exact .ok .nil
  | @cons a b xs ys hab _ ih =>
    rw [List.mapM_cons, List.mapM_cons]
    apply bind (hf a b hab)
    intro c d hcd
    apply bind ih
    intro cs ds hrest
    exact .ok (.cons hcd hrest)

theorem mapM_map {k : γ → δ} {f : α → Except ε γ} {g : β → Except ε δ} {xs : List α} {ys : List β}
    (h : List.Forall₂ R xs ys) (hf : ∀ a b, R a b → Agree (fun c d => d = k c) (f a) (g b)) :
    Agree (fun cs ds => ds = cs.map k) (xs.mapM f) (ys.mapM g) := by
  apply (mapM h hf).mono
  intro cs ds hall
  induction hall with
  | nil => rfl
  | cons hcd _ ih => rw [hcd, ih, List.map_cons]

theorem foldlM {f : γ → α → Except ε γ} {g : δ → β → Except ε δ} {xs : List α} {ys : List β}
    (h : List.Forall₂ R xs ys) (hf : ∀ c d a b, S c d → R a b → Agree S (f c a) (g d b)) {c : γ}
    {d : δ} (hcd : S c d) : Agree S (xs.foldlM f c) (ys.foldlM g d) := by
  induction h generalizing c d with
  | nil => exact .ok hcd
  | @cons a b xs ys hab _ ih =>
    rw [List.foldlM_cons, List.foldlM_cons]
    apply bind (hf c d a b hcd hab)
    intro c' d' hcd'
    exact ih hcd'

end Agree

end Outcome

/-- Items of which `free` holds are left out, or some of them; all others are replaced by ones that
stand in the relation `keeps` to them. -/
inductive Thinned (free : α → Prop) (keeps : α → β → Prop) : List α → List β → Prop
  | nil : Thinned free keeps [] []
  | keep {a : α} {b : β} {xs : List α} {ys : List β} (h : keeps a b)
    (rest : Thinned free keeps xs ys) : Thinned free keeps (a :: xs) (b :: ys)
  | leave {a : α} {xs : List α} {ys : List β} (h : free a) (rest : Thinned free keeps xs ys) :
    Thinned free keeps (a :: xs) ys

namespace Thinned

variable {free : α → Prop} {keeps : α → β → Prop} {xs : List α} {ys : List β}

theorem of_forall₂ (h : List.Forall₂ keeps xs ys) : Thinned free keeps xs ys := by
  induction h with
  | nil => exact .nil
  | cons hab _ ih => exact .keep hab ih

theorem imp {keeps' : α → β → Prop} (h : Thinned free keeps xs ys)
    (hkeeps : ∀ a b, keeps a b → keeps' a b) : Thinned free keeps' xs ys := by
  induction h with
  | nil => exact .nil
  | keep hab _ ih => exact .keep (hkeeps _ _ hab) ih
  | leave ha _ ih => exact .leave ha ih

theorem forall₂ (h : Thinned free keeps xs ys) (hfree : ∀ a, ¬ free a) :
    List.Forall₂ keeps xs ys := by
  induction h with
  | nil => exact .nil
  | keep hab _ ih => exact .cons hab ih
  | leave ha => exact absurd ha (hfree _)

theorem filterMap {R : γ → δ → Prop} {f : α → Option γ} {g : β → Option δ}
    (h : Thinned free keeps xs ys) (hfree : ∀ a, free a → f a = none)
    (hkeeps : ∀ a b, keeps a b → Option.Rel R (f a) (g b)) :
    List.Forall₂ R (xs.filterMap f) (ys.filterMap g) := by
  induction h with
  | nil => exact .nil
  | @keep a b _ _ hab _ ih =>
    have hrel := hkeeps a b hab
    rw [List.filterMap_cons, List.filterMap_cons]
    generalize f a = fa at hrel ⊢
    generalize g b = gb at hrel ⊢
    cases hrel with
    | some h => exact .cons h ih
    | none => exact ih
  | @leave a _ _ ha _ ih => rwa [List.filterMap_cons, hfree a ha]

theorem flatMap {R : γ → δ → Prop} {f : α → List γ} {g : β → List δ}
    (h : Thinned free keeps xs ys) (hfree : ∀ a, free a → f a = [])
    (hkeeps : ∀ a b, keeps a b → List.Forall₂ R (f a) (g b)) :
    List.Forall₂ R (xs.flatMap f) (ys.flatMap g) := by
  induction h with
  | nil => exact .nil
  | @keep a b _ _ hab _ ih =>
    rw [List.flatMap_cons, List.flatMap_cons]
    exact List.rel_append (hkeeps a b hab) ih
  | @leave a _ _ ha _ ih => rwa [List.flatMap_cons, hfree a ha]

end Thinned

end SchemaToJava
