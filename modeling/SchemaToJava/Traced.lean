import SchemaToJava.Event

/-!
Computations that report events and may fail. What was reported before a failure is kept, and the
outcome never depends on what was reported.
-/

namespace SchemaToJava

structure Traced (α : Type) where
  events : List Event
  outcome : Except Fault α

namespace Traced

instance : Monad Traced where
  pure a := ⟨[], .ok a⟩
  bind x f :=
    match x.outcome with
    | .error e => ⟨x.events, .error e⟩
    | .ok a => ⟨x.events ++ (f a).events, (f a).outcome⟩

def note (e : Event) : Traced Unit := ⟨[e], .ok ()⟩

def fail {α : Type} (f : Fault) : Traced α := ⟨[], .error f⟩

def silently {α : Type} (x : Except Fault α) : Traced α := ⟨[], x⟩

@[simp] theorem outcome_pure {α : Type} (a : α) : (pure a : Traced α).outcome = .ok a := rfl

@[simp] theorem events_pure {α : Type} (a : α) : (pure a : Traced α).events = [] := rfl

@[simp] theorem outcome_note (e : Event) : (note e).outcome = .ok () := rfl

@[simp] theorem outcome_silently {α : Type} (x : Except Fault α) : (silently x).outcome = x := rfl

@[simp] theorem outcome_bind {α β : Type} (x : Traced α) (f : α → Traced β) :
    (x >>= f).outcome = x.outcome >>= fun a => (f a).outcome := by
  obtain ⟨es, o⟩ := x
  cases o <;> rfl

instance : LawfulMonad Traced := LawfulMonad.mk' Traced
  (by rintro α ⟨es, o⟩; cases o <;> simp [Functor.map])
  (by intro α β a f; simp [Bind.bind, Pure.pure])
  (by
    rintro α β γ ⟨es, o⟩ f g
    cases o with
    | error e => rfl
    | ok a =>
      simp only [Bind.bind]
      cases h : (f a).outcome <;> simp [List.append_assoc])

end Traced

end SchemaToJava
