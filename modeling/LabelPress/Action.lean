import LabelPress.Fault.Basic

/-!
# Actions

An action works on a state, leaves a trace of events, and ends with a result or a fault. State
and trace are kept when it ends with a fault: what has happened has happened. Faults are handled
by looking at them: `attempt` runs an action and gives its result or fault as a value.
-/

namespace LabelPress

/-- What an action has come to: its result or fault, the state it leaves, and its events in
order. -/
structure Run (ε σ α : Type) where
  result : Except Fault α
  state : σ
  trace : List ε

/-- An action on a state of type `σ` with events of type `ε`. -/
def Action (ε σ α : Type) : Type := σ → Run ε σ α

namespace Action

variable {ε σ τ α β : Type}

/-- The action that only gives a result. -/
protected def pure (a : α) : Action ε σ α := fun s => ⟨.ok a, s, []⟩

/-- One action after another; a fault of the first is a fault of both. -/
protected def bind (x : Action ε σ α) (f : α → Action ε σ β) : Action ε σ β := fun s =>
  match x s with
  | ⟨.error e, s, trace⟩ => ⟨.error e, s, trace⟩
  | ⟨.ok a, s, trace⟩ =>
    let r := f a s
    ⟨r.result, r.state, trace ++ r.trace⟩

instance : Monad (Action ε σ) where
  pure := Action.pure
  bind := Action.bind

/-- Ends with a fault. -/
def raise (f : Fault) : Action ε σ α := fun s => ⟨.error f, s, []⟩

/-- Ends as a given result or fault. -/
def ofExcept (r : Except Fault α) : Action ε σ α := fun s => ⟨r, s, []⟩

/-- Leaves an event. -/
def emit (e : ε) : Action ε σ Unit := fun s => ⟨.ok (), s, [e]⟩

/-- The state. -/
def get : Action ε σ σ := fun s => ⟨.ok s, s, []⟩

/-- Changes the state. -/
def modify (f : σ → σ) : Action ε σ Unit := fun s => ⟨.ok (), f s, []⟩

/-- Runs an action and gives its result or fault as a value. -/
def attempt (x : Action ε σ α) : Action ε σ (Except Fault α) := fun s =>
  let r := x s
  ⟨.ok r.result, r.state, r.trace⟩

/-- An action on a part of a state. -/
def zoom (part : τ → σ) (replace : σ → τ → τ) (x : Action ε σ α) : Action ε τ α := fun t =>
  let r := x (part t)
  ⟨r.result, replace r.state t, r.trace⟩

/-! ## Equations -/

@[simp] theorem pure_apply (a : α) (s : σ) :
    (pure a : Action ε σ α) s = ⟨.ok a, s, []⟩ := rfl

theorem bind_apply (x : Action ε σ α) (f : α → Action ε σ β) (s : σ) :
    (x >>= f) s = match x s with
      | ⟨.error e, s, trace⟩ => ⟨.error e, s, trace⟩
      | ⟨.ok a, s, trace⟩ => ⟨(f a s).result, (f a s).state, trace ++ (f a s).trace⟩ := rfl

@[simp] theorem raise_apply (f : Fault) (s : σ) :
    (raise f : Action ε σ α) s = ⟨.error f, s, []⟩ := rfl

@[simp] theorem emit_apply (e : ε) (s : σ) : emit e s = ⟨.ok (), s, [e]⟩ := rfl

@[simp] theorem ofExcept_apply (r : Except Fault α) (s : σ) :
    (ofExcept r : Action ε σ α) s = ⟨r, s, []⟩ := rfl

@[simp] theorem get_apply (s : σ) : (get : Action ε σ σ) s = ⟨.ok s, s, []⟩ := rfl

@[simp] theorem modify_apply (f : σ → σ) (s : σ) :
    (modify f : Action ε σ Unit) s = ⟨.ok (), f s, []⟩ := rfl

theorem zoom_apply (part : τ → σ) (replace : σ → τ → τ) (x : Action ε σ α) (t : τ) :
    zoom part replace x t =
      ⟨(x (part t)).result, replace (x (part t)).state t, (x (part t)).trace⟩ := rfl

@[simp] theorem attempt_apply (x : Action ε σ α) (s : σ) :
    attempt x s = ⟨.ok (x s).result, (x s).state, (x s).trace⟩ := rfl

end Action

end LabelPress
