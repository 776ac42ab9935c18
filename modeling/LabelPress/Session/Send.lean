import LabelPress.Link.Wire
import LabelPress.Session.Basic

/-!
# Sending a document

A send builds a link, opens it, writes the document and closes the link again, once each. Faults
of the link become part of the delivery that the send gives, with two exceptions: an interrupt is
never held up, and what a link gives for the number of bytes taken has to be comparable with a
number. A link that has been opened is closed in any case. Each send leaves a log of its phases and,
if it gives a delivery, one last record of it.
-/

namespace LabelPress

namespace Session

variable {κ σ α : Type}

/-- The part of the program that the log names as the source of a session's records. -/
def source : Text := "printer_session"

/-- A session in the middle of a send: its phase and the state of its link. -/
structure Attempt (σ : Type) where
  phase : Phase
  link : σ

/-- An action in the middle of a send. -/
abbrev Sending (κ σ α : Type) := Action (Event κ) (Attempt σ) α

/-- The message of a change of phase. -/
def transitionMessage (before after : Phase) : Text :=
  "session " ++ before.word ++ " -> " ++ after.word

/-- The record of a change of phase. -/
def transition (before after : Phase) : Log.Record where
  level := .debug
  source := source
  message := transitionMessage before after

/-- Leaves a log record. -/
def log (level : Log.Level) (message : Text) (fault : Option Fault := none) : Sending κ σ Unit :=
  Action.emit (.log { level, source, message, fault })

/-- Goes over to another phase. -/
def enter (phase : Phase) : Sending κ σ Unit := do
  let attempt ← Action.get
  Action.emit (.log (transition attempt.phase phase))
  Action.modify fun attempt => { attempt with phase }

/-- Makes a request of the link, and carries it out. -/
def ask (request : Request) (x : Action (Event κ) σ α) : Sending κ σ α := do
  Action.emit (.asked request)
  Action.zoom Attempt.link (fun link attempt => { attempt with link }) x

/-- What can be seen of the link. -/
def linkView (transport : Transport κ σ) : Sending κ σ LinkView := do
  return transport.view (← Action.get).link

/-- Ends in failure, with an outcome, a detail and a number of bytes taken. -/
def fail (outcome : Outcome) (total : Nat) (detail : Text) : Sending κ σ Delivery := do
  enter .failed
  return { outcome, sent := .int 0, total, detail := some detail }

/-- Whether a number of bytes taken, as a link gives it, is one: neither missing nor zero nor below.
There is no telling of a value that is no number. -/
def isProgress : Value → Except Fault Bool
  | .null => .ok false
  | .bool b => .ok b
  | .int n => .ok (0 < n)
  | .float x => .ok (!x.leInt 0)
  | v =>
    let kind : Text := match v with
      | .text _ => "str"
      | .list _ => "list"
      | .table _ => "dict"
      | .date _ => "datetime.date"
      | .time _ => "datetime.time"
      | _ => "datetime.datetime"
    .error ⟨.type, "'<=' not supported between instances of '" ++ kind ++ "' and 'int'"⟩

/-- The number of bytes taken in a message: zero in place of everything that is not set. -/
def takenText (total : Nat) (v : Value) : Except Fault Text :=
  if v.isSet then Delivery.countText total v else .ok "0"

/-- Writes a document to the open link. -/
def writeDocument (transport : Transport κ σ) (bytes : Bytes) : Sending κ σ Delivery := do
  enter .writing
  match ← Action.attempt (ask (.write bytes) (transport.write bytes)) with
  | .error f =>
    if f.isInterrupt then Action.raise f
    else
      log .error ("write to " ++ (← linkView transport).describe ++ " failed") (some f)
      fail .writeFailed bytes.length f.detail
  | .ok taken =>
    if ← Action.ofExcept (isProgress taken) then
      enter .open
      return { outcome := .sent, sent := taken, total := bytes.length }
    else
      let count ← Action.ofExcept (takenText bytes.length taken)
      fail .writeFailed bytes.length
        ("printer accepted " ++ count ++ " of " ++ Text.ofNat bytes.length ++ " bytes")

/-- Closes the link. A fault in doing so is logged and otherwise passed over. -/
def closeLink (transport : Transport κ σ) : Sending κ σ Unit := do
  match ← Action.attempt (ask .close transport.close) with
  | .ok () => pure ()
  | .error f =>
    if f.isInterrupt then Action.raise f
    else
      log .warning ("error while closing " ++ (← linkView transport).describe ++ ": " ++ f.message)
  if (← Action.get).phase ≠ .failed then enter .closed
  log .debug ("connection to " ++ (← linkView transport).describe ++ " closed")

/-- Writes a document to the open link and closes the link, whatever comes of the writing. -/
def writeAndClose (transport : Transport κ σ) (bytes : Bytes) : Sending κ σ Delivery := do
  let result ← Action.attempt (writeDocument transport bytes)
  closeLink transport
  Action.ofExcept result

/-- Opens the link, and tells whether it is open. A fault in doing so is noted as the failure. -/
def openLink (transport : Transport κ σ) : Sending κ σ Bool := do
  match ← Action.attempt (ask .open transport.open) with
  | .ok opened => return opened.isSet
  | .error f =>
    if f.isInterrupt then Action.raise f
    else
      log .debug ("open of " ++ (← linkView transport).describe ++ " raised") (some f)
      Action.modify fun attempt => { attempt with link := transport.noteError f.detail attempt.link }
      return false

/-- Why a link could not be opened. -/
def openFailure (view : LinkView) : Text :=
  match view.lastError with
  | none | some [] => "could not open " ++ view.describe
  | some t => t

/-- Sends a document over a link that has been built. -/
def deliver (transport : Transport κ σ) (bytes : Bytes) : Sending κ σ Delivery := do
  if ← openLink transport then
    enter .open
    writeAndClose transport bytes
  else
    fail .connectionRefused bytes.length (openFailure (← linkView transport))

/-- The record of a delivery to an endpoint. -/
def outcomeRecord (endpoint : Endpoint) (d : Delivery) (summary : Text) : Log.Record where
  level := if d.ok then .info else .warning
  source := source
  message := endpoint.title ++ ": " ++ summary
  endpoint := endpoint.describe
  outcome := .text d.outcome.word

/-- The line of a delivery to an endpoint, if both can be shown. -/
def reportText (endpoint : Endpoint) (d : Delivery) : Except Fault Text :=
  if endpoint.isShowable then d.summary (some endpoint) else .error .tooLong

/-- Leaves the record of a delivery. -/
def report (endpoint : Endpoint) (d : Delivery) : Action (Event κ) Session Delivery := do
  let summary ← Action.ofExcept (reportText endpoint d)
  Action.emit (.log (outcomeRecord endpoint d summary))
  return d

/-- The part of a send after its link has been built, as an action on the session. -/
def withLink (transport : Transport κ σ) (link : σ) (x : Sending κ σ α) :
    Action (Event κ) Session α := fun s =>
  let r := x ⟨s.phase, link⟩
  ⟨r.result, { s with phase := r.state.phase, link := some (transport.view r.state.link) }, r.trace⟩

/-- Goes over to another phase while there is no link. -/
def enterUnlinked (phase : Phase) : Action (Event κ) Session Unit := do
  let s ← Action.get
  Action.emit (.log (transition s.phase phase))
  Action.modify fun s => { s with phase }

/-- Builds the link of a send. -/
def build (factory : Factory κ σ) (endpoint : Endpoint) : Action (Event κ) Session σ := fun s =>
  let r := factory.create endpoint s.timeout s.dryRun ()
  ⟨r.result, s, r.trace⟩

/-- Sends a document to an endpoint. -/
def send (factory : Factory κ σ) (endpoint : Endpoint) (payload : Payload) :
    Action (Event κ) Session Delivery := do
  let bytes ← Action.ofExcept payload.encode
  Action.modify fun s => { s with phase := .idle, link := none }
  enterUnlinked .opening
  match ← Action.attempt (build factory endpoint) with
  | .ok link => report endpoint (← withLink factory.transport link (deliver factory.transport bytes))
  | .error f =>
    if f.kind = .address then
      enterUnlinked .failed
      report endpoint
        { outcome := .addressInvalid, sent := .int 0, total := bytes.length,
          detail := some f.message }
    else Action.raise f

/-- Sends a document to an endpoint by a session of its own. -/
def sendOnce (timeout : Value) (dryRun : Bool) (factory : Factory κ σ) (endpoint : Endpoint)
    (payload : Payload) : Run (Event κ) Session Delivery :=
  send factory endpoint payload { timeout, dryRun }

end Session

/-- The factory of links over a wire. -/
def Wire.factory (wire : Wire) : Factory Exchange (Link Line) where
  create endpoint timeout dryRun :=
    Action.ofExcept ((Line.toEndpoint? endpoint timeout dryRun).mapError AddressProblem.fault)
  transport := (Line.carrier wire).transport
  isQuiet_create _ _ _ := .ofExcept _

end LabelPress
