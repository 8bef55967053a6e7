import JsonSelect.Error
import JsonSelect.Event

/-! Results together with the events on the way to them. -/
namespace JsonSelect

/-- An error stops the work and keeps the events before it. -/
structure Outcome (α : Type) where
  events : List Event
  result : Except Error α

namespace Outcome
variable {α β : Type}

def fail (error : Error) : Outcome α := ⟨[], .error error⟩

def emit (event : Event) : Outcome Unit := ⟨[event], .ok ()⟩

def ofExcept (result : Except Error α) : Outcome α := ⟨[], result⟩

protected def bind (x : Outcome α) (f : α → Outcome β) : Outcome β :=
  match x.result with
  | .error error => ⟨x.events, .error error⟩
  | .ok a =>
    let rest := f a
    ⟨x.events ++ rest.events, rest.result⟩

instance : Monad Outcome where
  pure a := ⟨[], .ok a⟩
  bind := Outcome.bind

instance : MonadLift (Except Error) Outcome := ⟨ofExcept⟩

@[simp] theorem result_pure (a : α) : (pure a : Outcome α).result = .ok a := rfl

@[simp] theorem events_pure (a : α) : (pure a : Outcome α).events = [] := rfl

@[simp] theorem result_fail (error : Error) : (fail error : Outcome α).result = .error error := rfl

@[simp] theorem events_fail (error : Error) : (fail error : Outcome α).events = [] := rfl

@[simp] theorem result_emit (event : Event) : (emit event).result = .ok () := rfl

@[simp] theorem events_emit (event : Event) : (emit event).events = [event] := rfl

@[simp] theorem result_ofExcept (result : Except Error α) : (ofExcept result).result = result := rfl

@[simp] theorem events_ofExcept (result : Except Error α) : (ofExcept result).events = [] := rfl

@[simp] theorem liftM_eq (result : Except Error α) : (liftM result : Outcome α) = ofExcept result :=
  rfl

/-- The events of a computation have no say in what it answers. -/
@[simp] theorem result_bind (x : Outcome α) (f : α → Outcome β) :
    (x >>= f).result = x.result >>= fun a => (f a).result := by
  rcases x with ⟨events, _ | a⟩ <;> rfl

theorem events_bind_of_ok {x : Outcome α} {a : α} (f : α → Outcome β) (h : x.result = .ok a) :
    (x >>= f).events = x.events ++ (f a).events := by
  simp [bind, Outcome.bind, h]

theorem events_bind_of_error {x : Outcome α} {error : Error} (f : α → Outcome β)
    (h : x.result = .error error) : (x >>= f).events = x.events := by
  simp [bind, Outcome.bind, h]

@[simp] theorem result_map (f : α → β) (x : Outcome α) : (f <$> x).result = f <$> x.result := by
  rcases x with ⟨events, _ | a⟩ <;> rfl

@[simp] theorem events_map (f : α → β) (x : Outcome α) : (f <$> x).events = x.events := by
  rcases x with ⟨events, _ | a⟩ <;> simp [Functor.map, Outcome.bind]

instance : LawfulMonad Outcome :=
  LawfulMonad.mk' Outcome
    (fun x => by rcases x with ⟨events, _ | _⟩ <;> simp [Functor.map, Outcome.bind])
    (fun a f => by simp [bind, Outcome.bind, pure])
    (fun x f g => by
      rcases x with ⟨events, _ | a⟩
      · rfl
      · rcases h : f a with ⟨more, _ | b⟩ <;> simp [bind, Outcome.bind, h])

end Outcome
end JsonSelect
