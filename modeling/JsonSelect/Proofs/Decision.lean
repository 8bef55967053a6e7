import JsonSelect.Error

/-! Computations that succeed exactly under one condition, with what is known of their errors, and
computations that have like answers. -/
namespace JsonSelect

section
variable {α β : Type} {x : Except Error α} {b : β}

theorem Error.bind_eq_ok {f : α → Except Error β} :
    (x >>= f) = .ok b ↔ ∃ a, x = .ok a ∧ f a = .ok b := by
  cases x <;> simp [bind, Except.bind]

theorem Error.map_eq_ok {f : α → β} : f <$> x = .ok b ↔ ∃ a, x = .ok a ∧ f a = b := by
  cases x <;> simp [Functor.map, Except.map]

/-- What two computations have in common is not lost by what follows them. -/
theorem Error.mapError_bind {ε : Type} {view : Error → ε} {y : Except Error α}
    {f g : α → Except Error β} (h : x.mapError view = y.mapError view)
    (hf : ∀ a, (f a).mapError view = (g a).mapError view) :
    (x >>= f).mapError view = (y >>= g).mapError view := by
  cases x with
  | error error =>
    cases y with
    | error => exact congrArg Except.error (Except.error.inj h)
    | ok => cases h
  | ok a =>
    cases y with
    | error => cases h
    | ok b =>
      cases h
      exact hf a

end

/-- Success exactly where `p` holds, and elsewhere an error with `q`. -/
def Decides {α : Type} (x : Except Error α) (p : Prop) (q : Error → Prop) : Prop :=
  match x with
  | .ok _ => p
  | .error error => ¬ p ∧ q error

namespace Decides

variable {α β γ : Type} {x : Except Error α} {y : Except Error β} {p r : Prop} {q s : Error → Prop} {error : Error}

theorem ok {a : α} (h : p) : Decides (.ok a) p q := h

theorem fail (h : ¬ p) (hq : q error) : Decides (.error error : Except Error α) p q := ⟨h, hq⟩

theorem congr (h : Decides x p q) (hpr : p ↔ r) : Decides x r q := by
  cases x with
  | ok a => exact hpr.mp h
  | error error => exact ⟨fun hr => h.1 (hpr.mpr hr), h.2⟩

theorem mono (h : Decides x p q) (hqs : ∀ error, ¬ p → q error → s error) : Decides x p s := by
  cases x with
  | ok a => exact h
  | error error => exact ⟨h.1, hqs error h.1 h.2⟩

theorem map {f : α → β} (h : Decides x p q) : Decides (f <$> x) p q := by
  cases x <;> exact h

/-- What follows does not fail. -/
theorem bind_ok {f : α → Except Error β} (h : Decides x p q) (hf : ∀ a, ∃ b, f a = .ok b) :
    Decides (x >>= f) p q := by
  cases x with
  | error error => exact h
  | ok a =>
    obtain ⟨b, hb⟩ := hf a
    change Decides (f a) p q
    rw [hb]
    exact h

/-- The second condition is asked only after the first one. -/
theorem bind {f : α → Except Error β} (h : Decides x p q) (hf : ∀ a, x = .ok a → Decides (f a) r s) :
    Decides (x >>= f) (p ∧ r) fun error => ¬ p ∧ q error ∨ p ∧ ¬ r ∧ s error := by
  cases x with
  | error error => exact ⟨fun hpr => h.1 hpr.1, .inl h⟩
  | ok a =>
    have hr := hf a rfl
    change Decides (f a) (p ∧ r) _
    cases hx : f a with
    | ok b =>
      rw [hx] at hr
      exact ⟨h, hr⟩
    | error error =>
      rw [hx] at hr
      exact ⟨fun hpr => hr.1 hpr.2, .inr ⟨h, hr⟩⟩

/-- Two steps with errors of one sort. -/
theorem andThen {f : α → Except Error β} (h : Decides x p q)
    (hf : ∀ a, x = .ok a → Decides (f a) r q) : Decides (x >>= f) (p ∧ r) q := by
  refine (h.bind hf).mono fun error _ he => ?_
  rcases he with ⟨-, he⟩ | ⟨-, -, he⟩ <;> exact he

/-- Two steps whose answers are put together, with errors of one sort. -/
theorem both {f : α → β → γ} (h : Decides x p q) (hm : Decides y r q) :
    Decides (x >>= fun a => y >>= fun b => .ok (f a b)) (p ∧ r) q :=
  h.andThen fun _ _ => hm.bind_ok fun _ => ⟨_, rfl⟩

theorem exists_ok_iff (h : Decides x p q) : (∃ a, x = .ok a) ↔ p := by
  cases x with
  | ok a => exact ⟨fun _ => h, fun _ => ⟨a, rfl⟩⟩
  | error error => exact ⟨nofun, fun hp => absurd hp h.1⟩

theorem exists_error_iff (h : Decides x p q) : (∃ error, x = .error error) ↔ ¬ p := by
  cases x with
  | ok a => exact ⟨nofun, fun hp => absurd h hp⟩
  | error error => exact ⟨fun _ => h.1, fun _ => ⟨error, rfl⟩⟩

theorem of_error (h : Decides x p q) (hx : x = .error error) : q error := by
  subst hx
  exact h.2

end Decides

/-- One error, or answers in a relation. -/
inductive Alike {α β : Type} (r : α → β → Prop) : Except Error α → Except Error β → Prop where
  | ok {a : α} {b : β} (h : r a b) : Alike r (.ok a) (.ok b)
  | error (error : Error) : Alike r (.error error) (.error error)

namespace Alike

variable {α β γ δ : Type} {r : α → β → Prop} {s : γ → δ → Prop} {x : Except Error α}
  {y : Except Error β}

theorem bind {f : α → Except Error γ} {g : β → Except Error δ} (h : Alike r x y)
    (hf : ∀ a b, r a b → Alike s (f a) (g b)) : Alike s (x >>= f) (y >>= g) := by
  cases h with
  | ok h => exact hf _ _ h
  | error error => exact .error error

theorem map {f : α → γ} {g : β → δ} (h : Alike r x y) (hf : ∀ a b, r a b → s (f a) (g b)) :
    Alike s (f <$> x) (g <$> y) := by
  cases h with
  | ok h => exact .ok (hf _ _ h)
  | error error => exact .error error

theorem of_ok {b : β} (h : Alike r x y) (hy : y = .ok b) : ∃ a, x = .ok a ∧ r a b := by
  subst hy
  cases h with
  | ok h => exact ⟨_, rfl, h⟩

theorem exists_ok_iff (h : Alike r x y) : (∃ a, x = .ok a) ↔ ∃ b, y = .ok b := by
  cases h with
  | ok => exact ⟨fun _ => ⟨_, rfl⟩, fun _ => ⟨_, rfl⟩⟩
  | error => exact ⟨nofun, nofun⟩

end Alike
end JsonSelect
