import JsonSelect.Outcome
import JsonSelect.Proofs.Decision

/-! Where a result and the events before it come from, and what is heard of them on one channel. -/
namespace JsonSelect.Outcome

variable {α β : Type} {x : Outcome α} {events : List Event} {b : β}

theorem pure_eq_ok {a : β} : pure a = (⟨events, .ok b⟩ : Outcome β) ↔ events = [] ∧ a = b := by
  simp [pure, eq_comm]

theorem ofExcept_eq_ok {result : Except Error β} :
    ofExcept result = ⟨events, .ok b⟩ ↔ events = [] ∧ result = .ok b := by
  simp [ofExcept, eq_comm]

theorem emit_eq_ok {event : Event} :
    emit event = ⟨events, .ok ()⟩ ↔ events = [event] := by
  simp [emit, eq_comm]

/-- The events of the first part stand before those of the second. -/
theorem bind_eq_ok {f : α → Outcome β} : x >>= f = ⟨events, .ok b⟩ ↔
    ∃ first a rest, x = ⟨first, .ok a⟩ ∧ f a = ⟨rest, .ok b⟩ ∧ events = first ++ rest := by
  rcases x with ⟨early, error | a⟩
  · simp [bind, Outcome.bind]
  · constructor
    · intro h
      obtain ⟨rfl, hr⟩ := Outcome.mk.inj h
      exact ⟨early, a, (f a).events, rfl, by rw [← hr], rfl⟩
    · rintro ⟨first, a', rest, hx, hf, rfl⟩
      obtain ⟨rfl, ha⟩ := Outcome.mk.inj hx
      cases ha
      simp [bind, Outcome.bind, hf]

theorem map_eq_ok {f : α → β} : f <$> x = ⟨events, .ok b⟩ ↔
    ∃ a, x = ⟨events, .ok a⟩ ∧ f a = b := by
  rw [map_eq_pure_bind, bind_eq_ok]
  constructor
  · rintro ⟨first, a, rest, hx, hp, rfl⟩
    obtain ⟨rfl, rfl⟩ := pure_eq_ok.mp hp
    exact ⟨a, by rw [hx, List.append_nil], rfl⟩
  · rintro ⟨a, hx, rfl⟩
    exact ⟨events, a, [], hx, rfl, (List.append_nil events).symm⟩

section Channels

variable {channel : Channel} {y : Outcome α} {event : Event}

/-- Nothing is heard but on that channel. -/
def StaysOn (channel : Channel) (x : Outcome α) : Prop :=
  ∀ event ∈ x.events, event.channel = channel

theorem staysOn_of_nil (h : x.events = []) : x.StaysOn channel := by
  intro event he
  rw [h] at he
  cases he

theorem staysOn_pure (a : α) : (pure a : Outcome α).StaysOn channel := staysOn_of_nil rfl

theorem staysOn_fail (error : Error) : (fail error : Outcome α).StaysOn channel :=
  staysOn_of_nil rfl

theorem staysOn_ofExcept (result : Except Error α) : (ofExcept result).StaysOn channel :=
  staysOn_of_nil rfl

theorem staysOn_emit (h : event.channel = channel) : (emit event).StaysOn channel := by
  intro other he
  rw [List.mem_singleton.mp he]
  exact h

theorem StaysOn.bind {f : α → Outcome β} (h : x.StaysOn channel)
    (hf : ∀ a, x.result = .ok a → (f a).StaysOn channel) : (x >>= f).StaysOn channel := by
  cases hx : x.result with
  | error error =>
    rw [StaysOn, events_bind_of_error f hx]
    exact h
  | ok a =>
    rw [StaysOn, events_bind_of_ok f hx]
    intro event he
    rcases List.mem_append.mp he with he | he
    · exact h event he
    · exact hf a hx event he

theorem StaysOn.map {f : α → β} (h : x.StaysOn channel) : (f <$> x).StaysOn channel := by
  rw [StaysOn, events_map]
  exact h

/-- The events on a channel, in their order. -/
def heard (channel : Channel) (x : Outcome α) : List Event :=
  x.events.filter (·.channel = channel)

theorem heard_of_staysOn {other : Channel} (h : x.StaysOn channel) (hne : channel ≠ other) :
    x.heard other = [] := by
  rw [heard, List.filter_eq_nil_iff]
  intro event he
  rw [h event he]
  simpa using hne

theorem heard_bind_of_ok {a : α} (f : α → Outcome β) (h : x.result = .ok a) :
    (x >>= f).heard channel = x.heard channel ++ (f a).heard channel := by
  rw [heard, events_bind_of_ok f h, List.filter_append]
  rfl

theorem heard_bind_of_error {error : Error} (f : α → Outcome β) (h : x.result = .error error) :
    (x >>= f).heard channel = x.heard channel := by
  rw [heard, events_bind_of_error f h]
  rfl

/-- One answer, after the same events on a channel. -/
structure Agrees (channel : Channel) (x y : Outcome α) : Prop where
  result_eq : x.result = y.result
  heard_eq : x.heard channel = y.heard channel

theorem Agrees.refl (x : Outcome α) : x.Agrees channel x := ⟨rfl, rfl⟩

theorem Agrees.bind {f g : α → Outcome β} (h : x.Agrees channel y)
    (hf : ∀ a, (f a).Agrees channel (g a)) : (x >>= f).Agrees channel (y >>= g) := by
  constructor
  · rw [result_bind, result_bind, h.result_eq]
    exact congrArg _ (funext fun a => (hf a).result_eq)
  · cases hx : x.result with
    | error error =>
      rw [heard_bind_of_error f hx, heard_bind_of_error g (h.result_eq ▸ hx), h.heard_eq]
    | ok a =>
      rw [heard_bind_of_ok f hx, heard_bind_of_ok g (h.result_eq ▸ hx), h.heard_eq,
        (hf a).heard_eq]

end Channels

section Kinds

variable {y : Outcome α}

/-- The same answer, or errors of one kind. What has been put into the log may differ. -/
def AnswersAlike (x y : Outcome α) : Prop :=
  x.result.mapError Error.kind = y.result.mapError Error.kind

namespace AnswersAlike

theorem refl (x : Outcome α) : AnswersAlike x x := rfl

theorem result_cases (h : AnswersAlike x y) :
    (∃ a, x.result = .ok a ∧ y.result = .ok a) ∨
    ∃ error other, x.result = .error error ∧ y.result = .error other ∧ error.kind = other.kind := by
  rw [AnswersAlike] at h
  cases hx : x.result with
  | error error =>
    cases hy : y.result with
    | error other =>
      rw [hx, hy] at h
      exact .inr ⟨error, other, rfl, rfl, Except.error.inj h⟩
    | ok b =>
      rw [hx, hy] at h
      cases h
  | ok a =>
    cases hy : y.result with
    | error other =>
      rw [hx, hy] at h
      cases h
    | ok b =>
      rw [hx, hy] at h
      cases h
      exact .inl ⟨a, rfl, rfl⟩

theorem result_eq_ok_iff {a : α} (h : AnswersAlike x y) : x.result = .ok a ↔ y.result = .ok a := by
  rcases h.result_cases with ⟨b, hx, hy⟩ | ⟨error, other, hx, hy, -⟩
  · rw [hx, hy]
  · rw [hx, hy]
    exact ⟨nofun, nofun⟩

theorem bind {f g : α → Outcome β} (h : AnswersAlike x y) (hf : ∀ a, AnswersAlike (f a) (g a)) :
    AnswersAlike (x >>= f) (y >>= g) := by
  rw [AnswersAlike, result_bind, result_bind]
  exact Error.mapError_bind h hf

theorem map {f : α → β} (h : AnswersAlike x y) : AnswersAlike (f <$> x) (f <$> y) := by
  rw [map_eq_pure_bind, map_eq_pure_bind]
  exact h.bind fun a => refl _

/-- Answers that are put together with those that come after them. -/
theorem both {γ : Type} {first second : Outcome β} (f : α → β → γ) (h : AnswersAlike x y)
    (hm : AnswersAlike first second) :
    AnswersAlike (x >>= fun a => first >>= fun b => pure (f a b))
      (y >>= fun a => second >>= fun b => pure (f a b)) :=
  h.bind fun _ => hm.bind fun _ => refl _

end AnswersAlike

/-- The same events and the same answer, or errors of one kind. -/
structure SameKind (x y : Outcome α) : Prop where
  events_eq : x.events = y.events
  result_eq : x.result.mapError Error.kind = y.result.mapError Error.kind

namespace SameKind

theorem refl (x : Outcome α) : SameKind x x := ⟨rfl, rfl⟩

theorem fail {error other : Error} (h : error.kind = other.kind) :
    SameKind (fail error : Outcome α) (Outcome.fail other) := ⟨rfl, congrArg Except.error h⟩

theorem ofExcept {result other : Except Error α}
    (h : result.mapError Error.kind = other.mapError Error.kind) :
    SameKind (ofExcept result) (Outcome.ofExcept other) := ⟨rfl, h⟩

theorem result_cases (h : SameKind x y) :
    (∃ a, x.result = .ok a ∧ y.result = .ok a) ∨
    ∃ error other, x.result = .error error ∧ y.result = .error other ∧ error.kind = other.kind :=
  AnswersAlike.result_cases h.result_eq

theorem bind {f g : α → Outcome β} (h : SameKind x y) (hf : ∀ a, SameKind (f a) (g a)) :
    SameKind (x >>= f) (y >>= g) where
  events_eq := by
    rcases h.result_cases with ⟨a, hx, hy⟩ | ⟨error, other, hx, hy, -⟩
    · rw [events_bind_of_ok f hx, events_bind_of_ok g hy, h.events_eq, (hf a).events_eq]
    · rw [events_bind_of_error f hx, events_bind_of_error g hy, h.events_eq]
  result_eq := AnswersAlike.bind h.result_eq fun a => (hf a).result_eq

theorem map {f : α → β} (h : SameKind x y) : SameKind (f <$> x) (f <$> y) := by
  rw [map_eq_pure_bind, map_eq_pure_bind]
  exact h.bind fun a => refl _

/-- Answers that are put together with those that come after them. -/
theorem both {γ : Type} {first second : Outcome β} (f : α → β → γ) (h : SameKind x y)
    (hm : SameKind first second) :
    SameKind (x >>= fun a => first >>= fun b => pure (f a b))
      (y >>= fun a => second >>= fun b => pure (f a b)) :=
  h.bind fun _ => hm.bind fun _ => refl _

end SameKind

end Kinds

end JsonSelect.Outcome
