import LabelPress.Action
import LabelPress.Log.Record
import LabelPress.Text.Utf8

/-!
# Links

A link carries bytes to a printer: it is opened, written to and closed. What all links have in
common is here; what carries the bytes is a `Carrier`, which connects, transmits and disconnects.
In a dry run a link does without its carrier and keeps what is written to it.
-/

namespace LabelPress

/-- What a session asks of a link. -/
inductive Request where
  | «open»
  | write (bytes : Bytes)
  | close
  deriving DecidableEq, Repr

/-- An event of a send: a request to the link, a call that the link makes of what carries its
bytes, or a log record. -/
inductive Event (κ : Type) where
  | asked (request : Request)
  | call (c : κ)
  | log (r : Log.Record)

namespace Event

variable {κ : Type}

/-- The requests in a trace, in order. -/
def requests (trace : List (Event κ)) : List Request :=
  trace.filterMap fun
    | .asked r => some r
    | _ => none

/-- The calls in a trace, in order. -/
def calls (trace : List (Event κ)) : List κ :=
  trace.filterMap fun
    | .call c => some c
    | _ => none

/-- The log records in a trace, in order. -/
def logs (trace : List (Event κ)) : List Log.Record :=
  trace.filterMap fun
    | .log r => some r
    | _ => none

@[simp] theorem requests_append (a b : List (Event κ)) :
    requests (a ++ b) = requests a ++ requests b := by simp [requests]

@[simp] theorem calls_append (a b : List (Event κ)) : calls (a ++ b) = calls a ++ calls b := by
  simp [calls]

@[simp] theorem logs_append (a b : List (Event κ)) : logs (a ++ b) = logs a ++ logs b := by
  simp [logs]

@[simp] theorem requests_asked_cons (r : Request) (trace : List (Event κ)) :
    requests (.asked r :: trace) = r :: requests trace := rfl

@[simp] theorem requests_log_cons (r : Log.Record) (trace : List (Event κ)) :
    requests (.log r :: trace) = requests trace := rfl

@[simp] theorem requests_nil : requests ([] : List (Event κ)) = [] := rfl

@[simp] theorem requests_map_log (records : List Log.Record) :
    requests (records.map (.log : Log.Record → Event κ)) = [] := by
  induction records with
  | nil => rfl
  | cons r records ih => simpa using ih

@[simp] theorem calls_asked_cons (r : Request) (trace : List (Event κ)) :
    calls (.asked r :: trace) = calls trace := rfl

@[simp] theorem calls_log_cons (r : Log.Record) (trace : List (Event κ)) :
    calls (.log r :: trace) = calls trace := rfl

@[simp] theorem calls_call_cons (c : κ) (trace : List (Event κ)) :
    calls (.call c :: trace) = c :: calls trace := rfl

@[simp] theorem calls_nil : calls ([] : List (Event κ)) = [] := rfl

@[simp] theorem calls_map_log (records : List Log.Record) :
    calls (records.map (.log : Log.Record → Event κ)) = [] := by
  induction records with
  | nil => rfl
  | cons r records ih => simpa using ih

end Event

/-- Whether an action makes no requests. Requests are made of links, and not by them. -/
def IsQuiet {κ σ α : Type} (x : Action (Event κ) σ α) : Prop :=
  ∀ s, Event.requests (x s).trace = []

namespace IsQuiet

variable {κ σ τ α β : Type} {x : Action (Event κ) σ α}

theorem pure (a : α) : IsQuiet (Pure.pure a : Action (Event κ) σ α) := fun _ => rfl

theorem raise (f : Fault) : IsQuiet (Action.raise f : Action (Event κ) σ α) := fun _ => rfl

theorem ofExcept (r : Except Fault α) : IsQuiet (Action.ofExcept r : Action (Event κ) σ α) :=
  fun _ => rfl

theorem get : IsQuiet (Action.get : Action (Event κ) σ σ) := fun _ => rfl

theorem modify (f : σ → σ) : IsQuiet (Action.modify f : Action (Event κ) σ Unit) := fun _ => rfl

theorem call (c : κ) : IsQuiet (Action.emit (.call c) : Action (Event κ) σ Unit) := fun _ => rfl

theorem log (r : Log.Record) : IsQuiet (Action.emit (.log r) : Action (Event κ) σ Unit) :=
  fun _ => rfl

/-- One quiet action after another is quiet, whether or not the first ends with a fault. -/
theorem bind {f : α → Action (Event κ) σ β} (hx : IsQuiet x) (hf : ∀ a, IsQuiet (f a)) :
    IsQuiet (x >>= f) := by
  intro s
  have h := hx s
  rw [Action.bind_apply]
  cases hr : x s with
  | mk result state trace =>
    rw [hr] at h
    cases result with
    | error e => exact h
    | ok a => simpa [h] using hf a state

theorem attempt (hx : IsQuiet x) : IsQuiet (Action.attempt x) := hx

theorem zoom (part : τ → σ) (replace : σ → τ → τ) (hx : IsQuiet x) :
    IsQuiet (Action.zoom part replace x) := fun t => hx (part t)

end IsQuiet

/-- What connects a link to a printer: how it connects within a time limit, transmits, which tells
how many bytes went out, and disconnects, and the words for a link and for its kind. -/
structure Carrier (κ σ : Type) where
  connect : (timeout : Value) → Action (Event κ) σ Unit
  transmit : Bytes → Action (Event κ) σ Value
  disconnect : Action (Event κ) σ Unit
  describe : σ → Text
  kind : σ → Text
  isQuiet_connect : ∀ timeout, IsQuiet (connect timeout)
  isQuiet_transmit : ∀ bytes, IsQuiet (transmit bytes)
  isQuiet_disconnect : IsQuiet disconnect

/-- A link: its settings, what it has kept in dry runs, whether it is open, the wording of the last
failure to open it, and the state of its carrier. -/
structure Link (σ : Type) where
  carrier : σ
  timeout : Value
  dryRun : Bool
  sent : List Bytes := []
  isOpen : Bool := false
  lastError : Option Text := none
  deriving Repr

namespace Link

variable {κ σ α : Type}

/-- An action of the carrier of a link. -/
def onCarrier (x : Action (Event κ) σ α) : Action (Event κ) (Link σ) α :=
  Action.zoom Link.carrier (fun c link => { link with carrier := c }) x

/-- Opens a link, and tells whether it is open. An unreachable printer is a failure to open;
every other fault is passed on. -/
def connect (carrier : Carrier κ σ) : Action (Event κ) (Link σ) Value := do
  let link ← Action.get
  if link.dryRun then
    Action.modify fun link => { link with isOpen := true }
    return .bool true
  else
    match ← Action.attempt (onCarrier (carrier.connect link.timeout)) with
    | .ok () =>
      Action.modify fun link => { link with isOpen := true }
      return .bool true
    | .error f =>
      if f.isOs then
        let link ← Action.get
        Action.emit (.log {
          level := .debug
          source := "printer_protocol"
          message := carrier.describe link.carrier ++ " open failed: " ++ f.message })
        Action.modify fun link => { link with lastError := some f.message }
        return .bool false
      else Action.raise f

/-- Writes bytes to an open link, and tells how many were taken. -/
def write (carrier : Carrier κ σ) (bytes : Bytes) : Action (Event κ) (Link σ) Value := do
  let link ← Action.get
  if !link.isOpen then
    Action.raise ⟨.transport, carrier.describe link.carrier ++ " is not open"⟩
  else if link.dryRun then
    Action.modify fun link => { link with sent := link.sent ++ [bytes] }
    return .int bytes.length
  else onCarrier (carrier.transmit bytes)

/-- Closes a link; one that is not open is left alone. -/
def close (carrier : Carrier κ σ) : Action (Event κ) (Link σ) Unit := do
  let link ← Action.get
  if !link.isOpen then return ()
  else
    Action.modify fun link => { link with isOpen := false }
    if link.dryRun then return ()
    else onCarrier carrier.disconnect

theorem isQuiet_connect (carrier : Carrier κ σ) : IsQuiet (connect carrier) := by
  refine .bind .get fun link => ?_
  split
  · exact .bind (.modify _) fun _ => .pure _
  · refine .bind (.attempt (.zoom _ _ (carrier.isQuiet_connect _))) fun r => ?_
    cases r with
    | ok _ => exact .bind (.modify _) fun _ => .pure _
    | error f =>
      dsimp only
      split
      · exact .bind .get fun _ => .bind (.log _) fun _ => .bind (.modify _) fun _ => .pure _
      · exact .raise f

theorem isQuiet_write (carrier : Carrier κ σ) (bytes : Bytes) : IsQuiet (write carrier bytes) := by
  refine .bind .get fun link => ?_
  split
  · exact .raise _
  · split
    · exact .bind (.modify _) fun _ => .pure _
    · exact .zoom _ _ (carrier.isQuiet_transmit bytes)

theorem isQuiet_close (carrier : Carrier κ σ) : IsQuiet (close carrier) := by
  refine .bind .get fun link => ?_
  split
  · exact .pure _
  · refine .bind (.modify _) fun _ => ?_
    split
    · exact .pure _
    · exact .zoom _ _ carrier.isQuiet_disconnect

end Link

/-- What can be seen of a link. -/
structure LinkView where
  describe : Text
  kind : Text
  isOpen : Bool
  sent : List Bytes
  lastError : Option Text
  deriving DecidableEq, Repr

/-- What can be seen of a link on a carrier. -/
def Link.view {κ σ : Type} (carrier : Carrier κ σ) (link : Link σ) : LinkView where
  describe := carrier.describe link.carrier
  kind := carrier.kind link.carrier
  isOpen := link.isOpen
  sent := link.sent
  lastError := link.lastError

/-- A means of transport as a session uses it: its state is opaque, its operations may do and
return anything, and the wording of the last failure can be read and set. -/
structure Transport (κ σ : Type) where
  «open» : Action (Event κ) σ Value
  write : Bytes → Action (Event κ) σ Value
  close : Action (Event κ) σ Unit
  view : σ → LinkView
  noteError : Text → σ → σ
  /-- A noted failure is the last one, and nothing else changes. -/
  view_noteError : ∀ t s, view (noteError t s) = { view s with lastError := some t }
  isQuiet_open : IsQuiet «open»
  isQuiet_write : ∀ bytes, IsQuiet (write bytes)
  isQuiet_close : IsQuiet close

/-- A link as a means of transport. -/
def Carrier.transport {κ σ : Type} (carrier : Carrier κ σ) : Transport κ (Link σ) where
  «open» := Link.connect carrier
  write := Link.write carrier
  close := Link.close carrier
  view := Link.view carrier
  noteError t link := { link with lastError := some t }
  view_noteError _ _ := rfl
  isQuiet_open := Link.isQuiet_connect carrier
  isQuiet_write := Link.isQuiet_write carrier
  isQuiet_close := Link.isQuiet_close carrier

end LabelPress
