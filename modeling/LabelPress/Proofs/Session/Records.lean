import LabelPress.Proofs.Session.Course

/-!
# What a session logs

The trace of a send holds what the session does and what its link does one upon the other, and both
may leave records. To tell them apart, everything that the link does can be made to stand as a call
(`Factory.apart`). The send is the same (`send_apart`), and the records that are still in its trace
are the session's own (`Session.records`). Which they are is settled by the answers of the link;
there is one equation for each way that a send goes.
-/

namespace LabelPress

namespace Event

variable {κ : Type}

@[simp] theorem logs_asked_cons (r : Request) (trace : List (Event κ)) :
    logs (.asked r :: trace) = logs trace := rfl

@[simp] theorem logs_call_cons (c : κ) (trace : List (Event κ)) :
    logs (.call c :: trace) = logs trace := rfl

@[simp] theorem logs_log_cons (r : Log.Record) (trace : List (Event κ)) :
    logs (.log r :: trace) = r :: logs trace := rfl

@[simp] theorem logs_map_log (records : List Log.Record) :
    logs (records.map (.log : Log.Record → Event κ)) = records := by
  induction records with
  | nil => rfl
  | cons r records ih => simpa using ih

@[simp] theorem logs_map_call (calls : List κ) : logs (calls.map (.call : κ → Event κ)) = [] := by
  induction calls with
  | nil => rfl
  | cons c calls ih => simpa using ih

theorem requests_map_call (calls : List κ) :
    requests (calls.map (.call : κ → Event κ)) = [] := by
  induction calls with
  | nil => rfl
  | cons c calls ih => exact ih

/-- An event of a trace in which the doings of the link stand as calls, as it is without that. -/
def joined : Event (Event κ) → Event κ
  | .asked r => .asked r
  | .call e => e
  | .log r => .log r

@[simp] theorem joined_comp_call : joined ∘ .call = (id : Event κ → Event κ) := rfl

@[simp] theorem joined_comp_log :
    joined ∘ .log = (.log : Log.Record → Event κ) := rfl

/-- What is picked from the records of such a trace, unless it would be picked from those of the
link as well. -/
theorem filterMap_logs_joined {α : Type} {pick : Log.Record → Option α}
    {trace : List (Event (Event κ))} (h : ∀ r ∈ logs (calls trace), pick r = none) :
    (logs (trace.map joined)).filterMap pick = (logs trace).filterMap pick := by
  induction trace with
  | nil => rfl
  | cons e trace ih =>
    cases e with
    | asked r => exact ih h
    | log r =>
      have := ih h
      cases hr : pick r <;> simp [joined, hr, this]
    | call e =>
      cases e with
      | asked r => exact ih h
      | call c => exact ih h
      | log r =>
        have hr : pick r = none := h r (by simp)
        have := ih fun r' hr' => h r' (by simp [hr'])
        simp [joined, hr, this]

end Event

/-! ## Sends with the doings of the link set apart -/

/-- An action whose events stand as calls. -/
def Action.asCalls {κ σ α : Type} (x : Action (Event κ) σ α) : Action (Event (Event κ)) σ α :=
  fun s => ⟨(x s).result, (x s).state, (x s).trace.map .call⟩

@[simp] theorem Action.asCalls_apply {κ σ α : Type} (x : Action (Event κ) σ α) (s : σ) :
    x.asCalls s = ⟨(x s).result, (x s).state, (x s).trace.map .call⟩ := rfl

theorem IsQuiet.asCalls {κ σ α : Type} (x : Action (Event κ) σ α) : IsQuiet x.asCalls :=
  fun _ => Event.requests_map_call _

/-- A means of transport whose doings stand as calls. -/
def Transport.apart {κ σ : Type} (transport : Transport κ σ) : Transport (Event κ) σ where
  «open» := transport.open.asCalls
  write bytes := (transport.write bytes).asCalls
  close := transport.close.asCalls
  view := transport.view
  noteError := transport.noteError
  view_noteError := transport.view_noteError
  isQuiet_open := .asCalls _
  isQuiet_write _ := .asCalls _
  isQuiet_close := .asCalls _

namespace Transport

variable {κ σ : Type} (transport : Transport κ σ)

@[simp] theorem apart_open : transport.apart.open = transport.open.asCalls := rfl

@[simp] theorem apart_write (bytes : Bytes) :
    transport.apart.write bytes = (transport.write bytes).asCalls := rfl

@[simp] theorem apart_close : transport.apart.close = transport.close.asCalls := rfl

@[simp] theorem apart_view : transport.apart.view = transport.view := rfl

@[simp] theorem openedLink_apart (link : σ) :
    Session.openedLink transport.apart link = Session.openedLink transport link := rfl

end Transport

/-- A factory whose doings, and those of its links, stand as calls. -/
def Factory.apart {κ σ : Type} (factory : Factory κ σ) : Factory (Event κ) σ where
  create endpoint timeout dryRun := (factory.create endpoint timeout dryRun).asCalls
  transport := factory.transport.apart
  isQuiet_create _ _ _ := .asCalls _

@[simp] theorem Factory.apart_transport {κ σ : Type} (factory : Factory κ σ) :
    factory.apart.transport = factory.transport.apart := rfl

@[simp] theorem Session.built_apart {κ σ : Type} (factory : Factory κ σ) (endpoint : Endpoint)
    (s : Session) :
    built factory.apart endpoint s =
      ⟨(built factory endpoint s).result, (), (built factory endpoint s).trace.map .call⟩ := rfl

/-- A run with the doings of the link back in place. -/
def Run.joined {κ σ α : Type} (r : Run (Event (Event κ)) σ α) : Run (Event κ) σ α :=
  ⟨r.result, r.state, r.trace.map Event.joined⟩

namespace Session

variable {κ σ : Type}

theorem deliver_apart (transport : Transport κ σ) (bytes : Bytes) (link : σ) :
    (deliver transport.apart bytes ⟨.opening, link⟩).joined =
      deliver transport bytes ⟨.opening, link⟩ := by
  rcases opening_cases (transport.open link).result with ho | ⟨ho, hf⟩ | ⟨f, ho, hf⟩
  · have ho' : opens (transport.apart.open link).result = true := ho
    rw [deliver_of_open bytes ho, deliver_of_open bytes ho']
    simp [writeAndClose_eq, Run.joined, Event.joined]
  · have ho' : opens (transport.apart.open link).result = false := ho
    rw [deliver_of_closed bytes ho hf, deliver_of_closed bytes ho' hf]
    simp [openLink_eq, Run.joined, Event.joined]
  · have ho' : (transport.apart.open link).result = .error f := ho
    rw [deliver_of_interrupt bytes ho hf, deliver_of_interrupt bytes ho' hf]
    simp [Run.joined, Event.joined]

section send

variable (factory : Factory κ σ) (endpoint : Endpoint) (payload : Payload) (s : Session)

/-- **The send is the same.** It only tells what the link does from what the session does. -/
theorem send_apart :
    (send factory.apart endpoint payload s).joined = send factory endpoint payload s := by
  cases hb : payload.encode with
  | error f =>
    rw [send_of_unencodable hb, send_of_unencodable hb]
    rfl
  | ok bytes =>
    cases h : (built factory endpoint s).result with
    | error f =>
      have h' : (built factory.apart endpoint s).result = .error f := h
      by_cases hf : f.kind = .address
      · rw [send_of_refusal hb h hf, send_of_refusal hb h' hf]
        simp [Run.joined, Event.joined]
      · rw [send_of_fault hb h hf, send_of_fault hb h' hf]
        simp [Run.joined, Event.joined]
    | ok link =>
      have h' : (built factory.apart endpoint s).result = .ok link := h
      have hdeliver := deliver_apart factory.transport bytes link
      rw [send_of_link hb h, send_of_link hb h', ← hdeliver]
      simp [Run.joined, Event.joined]

/-- The records that a session leaves of a send. -/
def records : List Log.Record := Event.logs (send factory.apart endpoint payload s).trace

/-- The records that the link, or what built it, leaves of a send. -/
def linkRecords : List Log.Record :=
  Event.logs (Event.calls (send factory.apart endpoint payload s).trace)

/-- **What is picked from the log is picked from the session's records**, as long as the link leaves
nothing that would be picked. -/
theorem filterMap_logs_send {α : Type} {pick : Log.Record → Option α}
    (h : ∀ r ∈ linkRecords factory endpoint payload s, pick r = none) :
    (Event.logs (send factory endpoint payload s).trace).filterMap pick =
      (records factory endpoint payload s).filterMap pick := by
  rw [← send_apart]
  exact Event.filterMap_logs_joined h

end send

/-! ## The records of each way that a send goes -/

section ways

variable {factory : Factory κ σ} {endpoint : Endpoint} {payload : Payload} {bytes : Bytes}
variable {s : Session}

theorem records_of_refusal (hb : payload.encode = .ok bytes) {f : Fault}
    (h : (built factory endpoint s).result = .error f) (hf : f.kind = .address) :
    records factory endpoint payload s =
      transition .idle .opening :: transition .opening .failed ::
        reportRecords endpoint (.ok (undelivered .addressInvalid bytes.length f.message)) := by
  have h' : (built factory.apart endpoint s).result = .error f := h
  rw [records, send_of_refusal hb h' hf]
  simp

theorem records_of_fault (hb : payload.encode = .ok bytes) {f : Fault}
    (h : (built factory endpoint s).result = .error f) (hf : f.kind ≠ .address) :
    records factory endpoint payload s = [transition .idle .opening] := by
  have h' : (built factory.apart endpoint s).result = .error f := h
  rw [records, send_of_fault hb h' hf]
  simp

variable {link : σ}

/-- Over a link that opens, the turns after writing and after closing follow each other. -/
theorem records_of_open (hb : payload.encode = .ok bytes)
    (h : (built factory endpoint s).result = .ok link)
    (ho : opens (factory.transport.open link).result = true) :
    let written := factory.transport.write bytes (factory.transport.open link).state
    let turn :=
      writeTurn (factory.transport.view written.state).describe bytes.length written.result
    let closed := factory.transport.close written.state
    let last := closeTurn (factory.transport.view closed.state).describe turn.phase closed.result
    records factory endpoint payload s =
      transition .idle .opening :: transition .opening .open :: transition .open .writing ::
        (turn.records ++ (last.records ++
          reportRecords endpoint (last.result.bind fun _ => turn.result))) := by
  intro written turn closed last
  have h' : (built factory.apart endpoint s).result = .ok link := h
  have ho' : opens (factory.apart.transport.open link).result = true := ho
  rw [records, send_of_link hb h', deliver_of_open bytes ho']
  simp [writeAndClose_eq, written, turn, closed, last]

/-- A link that does not open may have raised a fault in that. -/
theorem records_of_closed (hb : payload.encode = .ok bytes)
    (h : (built factory endpoint s).result = .ok link)
    (ho : opens (factory.transport.open link).result = false)
    (hf : ∀ f, (factory.transport.open link).result = .error f → f.isInterrupt = false) :
    let opened := factory.transport.open link
    records factory endpoint payload s =
      transition .idle .opening ::
        ((openTurn (factory.transport.view opened.state).describe opened.result).records ++
          transition .opening .failed ::
            reportRecords endpoint (.ok (undelivered .connectionRefused bytes.length
              (openFailure (factory.transport.view (openedLink factory.transport link)))))) := by
  intro opened
  have h' : (built factory.apart endpoint s).result = .ok link := h
  have ho' : opens (factory.apart.transport.open link).result = false := ho
  rw [records, send_of_link hb h', deliver_of_closed bytes ho' hf]
  simp [openLink_eq, opened]

theorem records_of_interrupt (hb : payload.encode = .ok bytes)
    (h : (built factory endpoint s).result = .ok link) {f : Fault}
    (ho : (factory.transport.open link).result = .error f) (hf : f.isInterrupt = true) :
    records factory endpoint payload s = [transition .idle .opening] := by
  have h' : (built factory.apart endpoint s).result = .ok link := h
  have ho' : (factory.apart.transport.open link).result = .error f := ho
  rw [records, send_of_link hb h', deliver_of_interrupt bytes ho' hf]
  simp [reportRecords]

end ways

end Session

end LabelPress
