import LabelPress.Action

/-!
# How actions end

Three things are said here of an action without running it, each read off the parts of the action.
`Ends`: whatever the state, it ends with a value of some kind or with a fault of some kind, `attempt`
being the part where a fault becomes a value. `Leaves`: every event that it leaves is of some kind.
`IsSteady`: the state has no say in it and stays as it is. Results that are computed without any
effects are taken apart first.
-/

namespace LabelPress

section Results

variable {ε α β : Type} {x : Except ε α} {f : α → Except ε β}

theorem bind_eq_ok_iff {b : β} : x >>= f = .ok b ↔ ∃ a, x = .ok a ∧ f a = .ok b := by
  cases x <;> simp [bind, Except.bind]

theorem bind_eq_error_iff {e : ε} :
    x >>= f = .error e ↔ x = .error e ∨ ∃ a, x = .ok a ∧ f a = .error e := by
  cases x <;> simp [bind, Except.bind]

theorem mapError_eq_ok_iff {ε' : Type} {fault : ε → ε'} {a : α} :
    x.mapError fault = .ok a ↔ x = .ok a := by
  cases x with
  | error e => exact iff_of_false nofun nofun
  | ok b =>
    constructor
    · intro h
      exact congrArg Except.ok (Except.ok.inj h)
    · intro h
      exact congrArg Except.ok (Except.ok.inj h)

theorem toOption_map (f : α → β) (x : Except ε α) : (x.map f).toOption = x.toOption.map f := by
  cases x <;> rfl

theorem eq_ok_of_toOption {a : α} (h : x.toOption = some a) : x = .ok a := by
  cases x with
  | error e => cases h
  | ok b => exact congrArg Except.ok (Option.some.inj h)

/-- Whether a result can only be wrong by a fault of a kind. -/
def OnlyRaises (kind : FaultKind) (x : Except Fault α) : Prop := ∀ f, x = .error f → f.kind = kind

namespace OnlyRaises

variable {kind : FaultKind} {x : Except Fault α} {f : α → Except Fault β}

theorem error_iff {f : Fault} : OnlyRaises kind (.error f : Except Fault α) ↔ f.kind = kind :=
  ⟨fun h => h f rfl, fun h _ hf => Except.error.inj hf ▸ h⟩

theorem ok {a : α} : OnlyRaises kind (.ok a : Except Fault α) := fun _ => nofun

instance decidable : Decidable (OnlyRaises kind x) :=
  match x with
  | .ok _ => isTrue ok
  | .error _ => decidable_of_iff _ error_iff.symm

/-- Two steps can only be wrong by a fault of the kind if that is so of each. -/
theorem bind_iff :
    OnlyRaises kind (x >>= f) ↔
      OnlyRaises kind x ∧ ∀ a, x = .ok a → OnlyRaises kind (f a) := by
  constructor
  · exact fun h => ⟨fun e he => h e (bind_eq_error_iff.2 (.inl he)),
      fun a ha e he => h e (bind_eq_error_iff.2 (.inr ⟨a, ha, he⟩))⟩
  · rintro ⟨hx, hf⟩ e he
    rcases bind_eq_error_iff.1 he with he | ⟨a, ha, he⟩
    · exact hx e he
    · exact hf a ha e he

/-- A step whose own faults are of no such kind has to succeed. -/
theorem mapError_bind_iff {y : Except ε α} {fault : ε → Fault}
    (hother : ∀ e, (fault e).kind ≠ kind) :
    OnlyRaises kind (y.mapError fault >>= f) ↔ ∃ a, y = .ok a ∧ OnlyRaises kind (f a) := by
  cases y with
  | ok a =>
    refine ⟨fun h => ⟨a, rfl, h⟩, ?_⟩
    rintro ⟨b, hb, h⟩
    exact Except.ok.inj hb ▸ h
  | error e =>
    refine iff_of_false (fun h => hother e (error_iff.1 h)) ?_
    rintro ⟨b, hb, -⟩
    cases hb

end OnlyRaises

end Results

namespace Action

variable {ε σ τ α β : Type}

/-- A value given after an action takes the place of the action's own. -/
theorem bind_pure_apply (x : Action ε σ α) (b : β) (s : σ) :
    (x >>= fun _ => pure b) s =
      ⟨(x s).result.map fun _ => b, (x s).state, (x s).trace⟩ := by
  rw [bind_apply]
  obtain ⟨result, state, trace⟩ := x s
  cases result with
  | error f => rfl
  | ok a => simp only [pure_apply, List.append_nil, Except.map]

/-- Every end of an action satisfies a condition on its value, or one on its fault. -/
def Ends (x : Action ε σ α) (value : α → Prop) (fault : Fault → Prop) : Prop :=
  ∀ s, match (x s).result with
    | .ok a => value a
    | .error f => fault f

namespace Ends

variable {x : Action ε σ α} {P P' : α → Prop} {Q : β → Prop} {F F' : Fault → Prop}

theorem pure {a : α} (h : P a) : Ends (Pure.pure a : Action ε σ α) P F := fun _ => h

theorem raise {f : Fault} (h : F f) : Ends (Action.raise f : Action ε σ α) P F := fun _ => h

theorem get : Ends (Action.get : Action ε σ σ) (fun _ => True) F := fun _ => trivial

theorem modify (f : σ → σ) :
    Ends (Action.modify f : Action ε σ Unit) (fun _ => True) F := fun _ => trivial

theorem emit (e : ε) : Ends (Action.emit e : Action ε σ Unit) (fun _ => True) F := fun _ => trivial

/-- What follows a value has that value's condition to go by. -/
theorem bind {f : α → Action ε σ β} (hx : Ends x P F) (hf : ∀ a, P a → Ends (f a) Q F) :
    Ends (x >>= f) Q F := by
  intro s
  have h := hx s
  rw [bind_apply]
  cases hr : x s with
  | mk result state trace =>
    rw [hr] at h
    cases result with
    | error e => exact h
    | ok a => exact hf a h state

/-- An attempt ends with the end of what it attempts as its value. -/
theorem attempt (hx : Ends x P F) :
    Ends (Action.attempt x)
      (fun r => match r with
        | .ok a => P a
        | .error f => F f) F' := hx

theorem zoom (part : τ → σ) (replace : σ → τ → τ) (hx : Ends x P F) :
    Ends (Action.zoom part replace x) P F := fun t => hx (part t)

theorem mono (hx : Ends x P F) (hP : ∀ a, P a → P' a) (hF : ∀ f, F f → F' f) : Ends x P' F' := by
  intro s
  have h := hx s
  cases hr : (x s).result with
  | ok a => rw [hr] at h; exact hP a h
  | error f => rw [hr] at h; exact hF f h

theorem value_of_ok {s : σ} {a : α} (hx : Ends x P F) (h : (x s).result = .ok a) : P a := by
  have := hx s
  rwa [h] at this

theorem fault_of_error {s : σ} {f : Fault} (hx : Ends x P F) (h : (x s).result = .error f) :
    F f := by
  have := hx s
  rwa [h] at this

end Ends

/-! ## Events that actions leave -/

/-- Every event that an action leaves, whatever the state, satisfies a condition. -/
def Leaves (x : Action ε σ α) (P : ε → Prop) : Prop := ∀ s, ∀ e ∈ (x s).trace, P e

namespace Leaves

variable {x : Action ε σ α} {P : ε → Prop}

theorem pure (a : α) : Leaves (Pure.pure a : Action ε σ α) P := fun _ => List.forall_mem_nil _

theorem raise (f : Fault) : Leaves (Action.raise f : Action ε σ α) P :=
  fun _ => List.forall_mem_nil _

theorem ofExcept (r : Except Fault α) : Leaves (Action.ofExcept r : Action ε σ α) P :=
  fun _ => List.forall_mem_nil _

theorem get : Leaves (Action.get : Action ε σ σ) P := fun _ => List.forall_mem_nil _

theorem modify (f : σ → σ) : Leaves (Action.modify f : Action ε σ Unit) P :=
  fun _ => List.forall_mem_nil _

theorem emit {e : ε} (h : P e) : Leaves (Action.emit e : Action ε σ Unit) P :=
  fun _ => List.forall_mem_singleton.2 h

theorem bind {f : α → Action ε σ β} (hx : Leaves x P) (hf : ∀ a, Leaves (f a) P) :
    Leaves (x >>= f) P := by
  intro s
  have h := hx s
  rw [bind_apply]
  cases hr : x s with
  | mk result state trace =>
    rw [hr] at h
    cases result with
    | error e => exact h
    | ok a => exact List.forall_mem_append.2 ⟨h, hf a state⟩

theorem attempt (hx : Leaves x P) : Leaves (Action.attempt x) P := hx

theorem zoom (part : τ → σ) (replace : σ → τ → τ) (hx : Leaves x P) :
    Leaves (Action.zoom part replace x) P := fun t => hx (part t)

end Leaves

/-! ## Actions that leave the state alone -/

/-- An action that neither looks at the state nor changes it. -/
def IsSteady (x : Action ε σ α) : Prop := ∃ result trace, ∀ s, x s = ⟨result, s, trace⟩

namespace IsSteady

variable {x : Action ε σ α}

theorem pure (a : α) : IsSteady (Pure.pure a : Action ε σ α) := ⟨_, _, fun _ => rfl⟩

theorem raise (f : Fault) : IsSteady (Action.raise f : Action ε σ α) := ⟨_, _, fun _ => rfl⟩

theorem ofExcept (r : Except Fault α) : IsSteady (Action.ofExcept r : Action ε σ α) :=
  ⟨_, _, fun _ => rfl⟩

theorem emit (e : ε) : IsSteady (Action.emit e : Action ε σ Unit) := ⟨_, _, fun _ => rfl⟩

theorem bind {f : α → Action ε σ β} (hx : IsSteady x) (hf : ∀ a, IsSteady (f a)) :
    IsSteady (x >>= f) := by
  obtain ⟨result, trace, hx⟩ := hx
  cases result with
  | error e =>
    refine ⟨.error e, trace, fun s => ?_⟩
    rw [bind_apply, hx]
  | ok a =>
    obtain ⟨result, more, hf⟩ := hf a
    refine ⟨result, trace ++ more, fun s => ?_⟩
    rw [bind_apply, hx]
    dsimp only
    rw [hf]

theorem state_eq (h : IsSteady x) (s : σ) : (x s).state = s := by
  obtain ⟨result, trace, h⟩ := h
  rw [h]

/-- It ends in the same way whatever the state. -/
theorem result_eq (h : IsSteady x) (s t : σ) : (x s).result = (x t).result := by
  obtain ⟨result, trace, h⟩ := h
  rw [h, h]

/-- And it leaves the same trace. -/
theorem trace_eq (h : IsSteady x) (s t : σ) : (x s).trace = (x t).trace := by
  obtain ⟨result, trace, h⟩ := h
  rw [h, h]

end IsSteady

end Action

end LabelPress
