import LabelPress.Session.Send

/-!
# The course of a send

What a send comes to, step by step, as a function of what its link answers. Each step makes one
request and then takes its `Turn`: from the answer alone it settles what comes of the step, in which
phase the session is left and which records are logged. The equations of this file (`openLink_eq`,
`writeDocument_eq`, `closeLink_eq`, and `send_of_link`, `send_of_refusal`, `send_of_fault`,
`send_of_unencodable` for the whole) are all that is needed of the definitions of
`LabelPress.Session.Send`.
-/

namespace LabelPress

namespace Session

variable {κ σ α : Type}

/-- What a session makes of an answer of its link: what comes of it, the phase that the session is
then in, and the records that it leaves on the way. -/
structure Turn (α : Type) where
  result : Except Fault α
  phase : Phase
  records : List Log.Record

/-- The delivery of a document of which nothing was sent. -/
def undelivered (outcome : Outcome) (total : Nat) (detail : Text) : Delivery :=
  { outcome, sent := .int 0, total, detail := some detail }

/-! ## The turns -/

/-- The turn after a link has been asked to open: whether it is open. -/
def openTurn (link : Text) : Except Fault Value → Turn Bool
  | .ok opened => ⟨.ok opened.isSet, .opening, []⟩
  | .error f =>
    if f.isInterrupt then ⟨.error f, .opening, []⟩
    else ⟨.ok false, .opening, [{
      level := .debug, source, message := "open of " ++ link ++ " raised", fault := some f }]⟩

/-- A link that has been asked to open, with the fault of doing so noted in it. -/
def openedLink (transport : Transport κ σ) (link : σ) : σ :=
  match (transport.open link).result with
  | .ok _ => (transport.open link).state
  | .error f =>
    if f.isInterrupt then (transport.open link).state
    else transport.noteError f.detail (transport.open link).state

/-- The turn after a link has been asked to write a document of a length. -/
def writeTurn (link : Text) (total : Nat) : Except Fault Value → Turn Delivery
  | .error f =>
    if f.isInterrupt then ⟨.error f, .writing, []⟩
    else ⟨.ok (undelivered .writeFailed total f.detail), .failed, [
      { level := .error, source, message := "write to " ++ link ++ " failed", fault := some f },
      transition .writing .failed]⟩
  | .ok taken =>
    match isProgress taken with
    | .error f => ⟨.error f, .writing, []⟩
    | .ok true =>
      ⟨.ok { outcome := .sent, sent := taken, total }, .open, [transition .writing .open]⟩
    | .ok false =>
      match takenText total taken with
      | .error f => ⟨.error f, .writing, []⟩
      | .ok count =>
        ⟨.ok (undelivered .writeFailed total
          ("printer accepted " ++ count ++ " of " ++ Text.ofNat total ++ " bytes")), .failed,
          [transition .writing .failed]⟩

/-- The phase that a session ends in once its link is closed. -/
def settle : Phase → Phase
  | .failed => .failed
  | _ => .closed

/-- The records of a session coming to its end once its link is closed. -/
def settleRecords (link : Text) (phase : Phase) : List Log.Record :=
  (if phase = .failed then [] else [transition phase .closed]) ++
    [{ level := .debug, source, message := "connection to " ++ link ++ " closed" }]

/-- The turn after a link has been asked to close, in a phase. -/
def closeTurn (link : Text) (phase : Phase) : Except Fault Unit → Turn Unit
  | .ok () => ⟨.ok (), settle phase, settleRecords link phase⟩
  | .error f =>
    if f.isInterrupt then ⟨.error f, phase, []⟩
    else ⟨.ok (), settle phase,
      { level := .warning, source,
        message := "error while closing " ++ link ++ ": " ++ f.message } ::
        settleRecords link phase⟩

/-! ## The steps -/

@[simp] theorem enter_apply (phase : Phase) (a : Attempt σ) :
    (enter phase : Sending κ σ Unit) a =
      ⟨.ok (), { a with phase }, [.log (transition a.phase phase)]⟩ := rfl

@[simp] theorem log_apply (level : Log.Level) (message : Text) (fault : Option Fault)
    (a : Attempt σ) : (log level message fault : Sending κ σ Unit) a =
      ⟨.ok (), a, [.log { level, source, message, fault }]⟩ := rfl

@[simp] theorem ask_apply (request : Request) (x : Action (Event κ) σ α) (a : Attempt σ) :
    ask request x a = ⟨(x a.link).result, { a with link := (x a.link).state },
      .asked request :: (x a.link).trace⟩ := rfl

@[simp] theorem linkView_apply (transport : Transport κ σ) (a : Attempt σ) :
    linkView transport a = ⟨.ok (transport.view a.link), a, []⟩ := rfl

@[simp] theorem fail_apply (outcome : Outcome) (total : Nat) (detail : Text) (a : Attempt σ) :
    (fail outcome total detail : Sending κ σ Delivery) a =
      ⟨.ok (undelivered outcome total detail), { a with phase := .failed },
        [.log (transition a.phase .failed)]⟩ := rfl

variable (transport : Transport κ σ)

theorem openLink_eq (link : σ) :
    let asked := transport.open link
    let turn := openTurn (transport.view asked.state).describe asked.result
    openLink transport ⟨.opening, link⟩ =
      ⟨turn.result, ⟨.opening, openedLink transport link⟩,
        .asked .open :: (asked.trace ++ turn.records.map .log)⟩ := by
  intro asked turn
  simp only [openLink, Action.bind_apply, Action.attempt_apply, ask_apply]
  unfold openedLink
  cases hr : (transport.open link).result with
  | ok opened => simp [turn, asked, openTurn, hr]
  | error f => cases hf : f.isInterrupt <;> simp [turn, asked, openTurn, hr, hf, Action.bind_apply]

theorem writeDocument_eq (bytes : Bytes) (link : σ) :
    let asked := transport.write bytes link
    let turn := writeTurn (transport.view asked.state).describe bytes.length asked.result
    writeDocument transport bytes ⟨.open, link⟩ =
      ⟨turn.result, ⟨turn.phase, asked.state⟩,
        .log (transition .open .writing) :: .asked (.write bytes) ::
          (asked.trace ++ turn.records.map .log)⟩ := by
  intro asked turn
  simp only [writeDocument, Action.bind_apply, Action.attempt_apply, enter_apply, ask_apply]
  cases hr : (transport.write bytes link).result with
  | error f =>
    cases hf : f.isInterrupt <;> simp [turn, asked, writeTurn, hr, hf, Action.bind_apply]
  | ok taken =>
    cases hp : isProgress taken with
    | error f => simp [turn, asked, writeTurn, hr, hp, Action.bind_apply]
    | ok progress =>
      cases progress with
      | true => simp [turn, asked, writeTurn, hr, hp, Action.bind_apply]
      | false =>
        cases ht : takenText bytes.length taken <;>
          simp [turn, asked, writeTurn, hr, hp, ht, Action.bind_apply]

theorem closeLink_eq (phase : Phase) (link : σ) :
    let asked := transport.close link
    let turn := closeTurn (transport.view asked.state).describe phase asked.result
    closeLink transport ⟨phase, link⟩ =
      ⟨turn.result, ⟨turn.phase, asked.state⟩,
        .asked .close :: (asked.trace ++ turn.records.map .log)⟩ := by
  intro asked turn
  simp only [closeLink, Action.bind_apply, Action.attempt_apply, ask_apply]
  cases hr : (transport.close link).result with
  | ok _ =>
    cases phase <;> simp [turn, asked, closeTurn, settle, settleRecords, hr, Action.bind_apply]
  | error f =>
    cases hf : f.isInterrupt <;> cases phase <;>
      simp [turn, asked, closeTurn, settle, settleRecords, hr, hf, Action.bind_apply]

/-- **Writing and closing.** The link is asked to close as the writing left it, in the phase that the
writing left; a delivery waits for the close to come through. -/
theorem writeAndClose_eq (bytes : Bytes) (link : σ) :
    let written := transport.write bytes link
    let turn := writeTurn (transport.view written.state).describe bytes.length written.result
    let closed := transport.close written.state
    let last := closeTurn (transport.view closed.state).describe turn.phase closed.result
    writeAndClose transport bytes ⟨.open, link⟩ =
      ⟨last.result.bind fun _ => turn.result, ⟨last.phase, closed.state⟩,
        .log (transition .open .writing) :: .asked (.write bytes) ::
          (written.trace ++ turn.records.map .log ++
            .asked .close :: (closed.trace ++ last.records.map .log))⟩ := by
  intro written turn closed last
  simp only [writeAndClose, Action.bind_apply, Action.attempt_apply, writeDocument_eq,
    closeLink_eq]
  cases last.result with
  | error f => simp [written, turn, closed, last, Except.bind]
  | ok _ => simp [written, turn, closed, last, Except.bind]

/-- A fault of the closing that is no interrupt is passed over. -/
theorem closeTurn_result (text : Text) (phase : Phase) {r : Except Fault Unit}
    (h : ∀ f, r = .error f → f.isInterrupt = false) :
    (closeTurn text phase r).result = .ok () ∧ (closeTurn text phase r).phase = settle phase := by
  cases r with
  | ok _ => exact ⟨rfl, rfl⟩
  | error f => simp [closeTurn, h f rfl]

/-- So it has no say in what the writing has come to. -/
theorem writeAndClose_result (bytes : Bytes) (link : σ)
    (h : ∀ f, (transport.close (transport.write bytes link).state).result = .error f →
      f.isInterrupt = false) :
    let written := transport.write bytes link
    let turn := writeTurn (transport.view written.state).describe bytes.length written.result
    let sent := writeAndClose transport bytes ⟨.open, link⟩
    sent.result = turn.result ∧
      sent.state = ⟨settle turn.phase, (transport.close written.state).state⟩ := by
  intro written turn sent
  obtain ⟨hresult, hphase⟩ :=
    closeTurn_result (transport.view (transport.close written.state).state).describe turn.phase h
  simp only [sent, writeAndClose_eq]
  exact ⟨by rw [hresult]; rfl, by rw [hphase]⟩

/-- If a delivery comes of writing and closing, it is what the writing has come to: no interrupt has
come in between. -/
theorem writeAndClose_of_ok {bytes : Bytes} {link : σ} {d : Delivery}
    (h : (writeAndClose transport bytes ⟨.open, link⟩).result = .ok d) :
    let written := transport.write bytes link
    let turn := writeTurn (transport.view written.state).describe bytes.length written.result
    turn.result = .ok d ∧
      (writeAndClose transport bytes ⟨.open, link⟩).state.phase = settle turn.phase := by
  have hclose : ∀ f, (transport.close (transport.write bytes link).state).result = .error f →
      f.isInterrupt = false := by
    intro f hf
    cases hint : f.isInterrupt with
    | false => rfl
    | true =>
      simp only [writeAndClose_eq] at h
      simp [closeTurn, hf, hint, Except.bind] at h
  intro written turn
  obtain ⟨hresult, hstate⟩ := writeAndClose_result transport bytes link hclose
  exact ⟨hresult.symm.trans h, congrArg Attempt.phase hstate⟩

/-! ## The delivery

`deliver` parts three ways by the answer to the request to open (`opening_cases`): over an open link
the document is written, a link that is not open is a refused connection, and an interrupt
escapes. -/

/-- Whether an answer to the request to open says that the link is open. -/
def opens : Except Fault Value → Bool
  | .ok opened => opened.isSet
  | .error _ => false

/-- The three ways an opening goes. -/
theorem opening_cases (r : Except Fault Value) :
    opens r = true ∨ (opens r = false ∧ ∀ f, r = .error f → f.isInterrupt = false) ∨
      ∃ f, r = .error f ∧ f.isInterrupt = true := by
  cases r with
  | ok opened => cases h : opened.isSet <;> simp [opens, h]
  | error f => cases h : f.isInterrupt <;> simp [opens, h]

section deliver

variable {transport} {link : σ} (bytes : Bytes)

/-- A link that says it is open has nothing noted in it. -/
theorem openedLink_of_opens (h : opens (transport.open link).result = true) :
    openedLink transport link = (transport.open link).state := by
  unfold openedLink
  cases hr : (transport.open link).result with
  | ok opened => rfl
  | error f => simp [opens, hr] at h

/-- Over an open link the document is written. -/
theorem deliver_of_open (h : opens (transport.open link).result = true) :
    deliver transport bytes ⟨.opening, link⟩ =
      let sent := writeAndClose transport bytes ⟨.open, (transport.open link).state⟩
      ⟨sent.result, sent.state,
        .asked .open :: ((transport.open link).trace ++ .log (transition .opening .open) ::
          sent.trace)⟩ := by
  have hlink := openedLink_of_opens h
  cases hr : (transport.open link).result with
  | ok opened =>
    have hset : opened.isSet = true := by simpa [opens, hr] using h
    simp [deliver, Action.bind_apply, openLink_eq, openTurn, hr, hset, hlink]
  | error f => simp [opens, hr] at h

/-- A link that is not open is a refused connection. -/
theorem deliver_of_closed (h : opens (transport.open link).result = false)
    (hf : ∀ f, (transport.open link).result = .error f → f.isInterrupt = false) :
    deliver transport bytes ⟨.opening, link⟩ =
      ⟨.ok (undelivered .connectionRefused bytes.length
          (openFailure (transport.view (openedLink transport link)))),
        ⟨.failed, openedLink transport link⟩,
        (openLink transport ⟨.opening, link⟩).trace ++ [.log (transition .opening .failed)]⟩ := by
  cases hr : (transport.open link).result with
  | ok opened =>
    have hset : opened.isSet = false := by simpa [opens, hr] using h
    simp [deliver, Action.bind_apply, openLink_eq, openTurn, hr, hset]
  | error f =>
    have hf' := hf f hr
    simp [deliver, Action.bind_apply, openLink_eq, openTurn, hr, hf']

/-- An interrupt of the opening escapes. -/
theorem deliver_of_interrupt {f : Fault} (h : (transport.open link).result = .error f)
    (hf : f.isInterrupt = true) :
    deliver transport bytes ⟨.opening, link⟩ =
      ⟨.error f, ⟨.opening, (transport.open link).state⟩,
        .asked .open :: (transport.open link).trace⟩ := by
  simp [deliver, Action.bind_apply, openLink_eq, openTurn, openedLink, h, hf]

end deliver

/-! ## The report and the whole -/

/-- What comes of a delivery once it has been reported. -/
def reported (endpoint : Endpoint) : Except Fault Delivery → Except Fault Delivery
  | .ok d => (reportText endpoint d).map fun _ => d
  | .error f => .error f

/-- The records of reporting a delivery: one, unless there is no delivery or no line for it. -/
def reportRecords (endpoint : Endpoint) : Except Fault Delivery → List Log.Record
  | .ok d =>
    match reportText endpoint d with
    | .ok text => [outcomeRecord endpoint d text]
    | .error _ => []
  | .error _ => []

theorem report_eq (endpoint : Endpoint) (d : Delivery) (s : Session) :
    (report endpoint d : Action (Event κ) Session Delivery) s =
      ⟨reported endpoint (.ok d), s, (reportRecords endpoint (.ok d)).map .log⟩ := by
  simp only [report, reported, reportRecords, Action.bind_apply, Action.ofExcept_apply]
  cases reportText endpoint d <;> simp [Except.map]

/-- What has been reported is the delivery itself. -/
theorem eq_of_reported {endpoint : Endpoint} {r : Except Fault Delivery} {d : Delivery}
    (h : reported endpoint r = .ok d) : r = .ok d := by
  cases r with
  | error f => simp [reported] at h
  | ok d' =>
    cases ht : reportText endpoint d' with
    | error f => simp [reported, ht, Except.map] at h
    | ok t => simpa [reported, ht, Except.map] using h

/-- There is a line for a delivery that has been reported, and that line is its summary. -/
theorem exists_line_of_reported {endpoint : Endpoint} {r : Except Fault Delivery} {d : Delivery}
    (h : reported endpoint r = .ok d) :
    ∃ line, reportText endpoint d = .ok line ∧ d.summary (some endpoint) = .ok line := by
  obtain rfl := eq_of_reported h
  cases ht : reportText endpoint d with
  | error f => simp [reported, ht, Except.map] at h
  | ok line =>
    refine ⟨line, rfl, ?_⟩
    unfold reportText at ht
    split at ht
    · exact ht
    · cases ht

section send

variable {factory : Factory κ σ} {endpoint : Endpoint} {payload : Payload} {bytes : Bytes}
variable {s : Session}

/-- The build of the link of a send. -/
abbrev built (factory : Factory κ σ) (endpoint : Endpoint) (s : Session) : Run (Event κ) Unit σ :=
  factory.create endpoint s.timeout s.dryRun ()

/-- **A send of a document that cannot be encoded** does not begin. -/
theorem send_of_unencodable {f : Fault} (hb : payload.encode = .error f) :
    send factory endpoint payload s = ⟨.error f, s, []⟩ := by
  simp [send, Action.bind_apply, hb]

/-- **A send over a link that has been built.** The session keeps the phase and the view of the link
that the delivery leaves, and the delivery is reported. -/
theorem send_of_link (hb : payload.encode = .ok bytes) {link : σ}
    (h : (built factory endpoint s).result = .ok link) :
    send factory endpoint payload s =
      let sent := deliver factory.transport bytes ⟨.opening, link⟩
      ⟨reported endpoint sent.result,
        { s with phase := sent.state.phase, link := some (factory.transport.view sent.state.link) },
        .log (transition .idle .opening) :: ((built factory endpoint s).trace ++
          (sent.trace ++ (reportRecords endpoint sent.result).map .log))⟩ := by
  simp only [send, Action.bind_apply, Action.attempt_apply, enterUnlinked, build, withLink, hb, h,
    Action.ofExcept_apply, Action.modify_apply, Action.get_apply, Action.emit_apply]
  cases (deliver factory.transport bytes ⟨.opening, link⟩).result with
  | error f => simp [reported, reportRecords]
  | ok d => simp [report_eq]

/-- **A send to a refused address.** The refusal is reported, and there is no link. -/
theorem send_of_refusal (hb : payload.encode = .ok bytes) {f : Fault}
    (h : (built factory endpoint s).result = .error f) (hf : f.kind = .address) :
    send factory endpoint payload s =
      let refused := undelivered .addressInvalid bytes.length f.message
      ⟨reported endpoint (.ok refused), { s with phase := .failed, link := none },
        .log (transition .idle .opening) :: ((built factory endpoint s).trace ++
          .log (transition .opening .failed) ::
            (reportRecords endpoint (.ok refused)).map .log)⟩ := by
  simp [send, Action.bind_apply, enterUnlinked, build, hb, h, hf, report_eq, undelivered]

/-- **A send whose link cannot be built for any other reason** ends with the fault. -/
theorem send_of_fault (hb : payload.encode = .ok bytes) {f : Fault}
    (h : (built factory endpoint s).result = .error f) (hf : f.kind ≠ .address) :
    send factory endpoint payload s =
      ⟨.error f, { s with phase := .opening, link := none },
        .log (transition .idle .opening) :: (built factory endpoint s).trace⟩ := by
  simp [send, Action.bind_apply, enterUnlinked, build, hb, h, hf]

end send

end Session

end LabelPress
