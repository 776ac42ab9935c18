import LabelPress.Link.Rehearsal
import LabelPress.Proofs.Session.Course

/-!
# What a session asks of its link

A send asks its link at most three things, each once: to open, and, if the link says that it is
open, to write the document and then to close. What the link answers to the writing has no say in
the closing, and neither has the way the send ends. The main statement, `dealings_send`, gives the
whole exchange of a session with its link, the calls that each request leads to included;
`Event.requests` of it are the requests alone, and `Event.calls` of it the calls (`calls_send`).
-/

namespace LabelPress

namespace Event

variable {κ : Type}

/-- What passes between a session and its link in a trace: the requests, and the calls that they
lead to. Only the log is left out. -/
def dealings (trace : List (Event κ)) : List (Event κ) :=
  trace.filter fun
    | .log _ => false
    | _ => true

@[simp] theorem dealings_nil : dealings ([] : List (Event κ)) = [] := rfl

@[simp] theorem dealings_append (a b : List (Event κ)) :
    dealings (a ++ b) = dealings a ++ dealings b := by simp [dealings]

@[simp] theorem dealings_asked_cons (r : Request) (trace : List (Event κ)) :
    dealings (.asked r :: trace) = .asked r :: dealings trace := rfl

@[simp] theorem dealings_log_cons (r : Log.Record) (trace : List (Event κ)) :
    dealings (.log r :: trace) = dealings trace := rfl

@[simp] theorem dealings_map_log (records : List Log.Record) :
    dealings (records.map (.log : Log.Record → Event κ)) = [] := by
  induction records with
  | nil => rfl
  | cons r records ih => simpa using ih

/-- The log holds no requests. -/
@[simp] theorem requests_dealings (trace : List (Event κ)) :
    requests (dealings trace) = requests trace := by
  induction trace with
  | nil => rfl
  | cons e trace ih =>
    cases e with
    | asked r => simpa using ih
    | call c => exact ih
    | log r => simpa using ih

/-- Nor does it hold any calls. -/
@[simp] theorem calls_dealings (trace : List (Event κ)) : calls (dealings trace) = calls trace := by
  induction trace with
  | nil => rfl
  | cons e trace ih =>
    cases e with
    | asked r => exact ih
    | call c => exact congrArg (c :: ·) ih
    | log r => simpa using ih

end Event

namespace Session

open Event

variable {κ σ : Type} (transport : Transport κ σ) (bytes : Bytes)

/-- What passes with an open link: the writing, then the closing. -/
theorem dealings_writeAndClose (link : σ) :
    let written := transport.write bytes link
    let closed := transport.close written.state
    dealings (writeAndClose transport bytes ⟨.open, link⟩).trace =
      .asked (.write bytes) :: dealings written.trace ++ .asked .close :: dealings closed.trace := by
  intro written closed
  rw [writeAndClose_eq]
  simp [written, closed]

/-- What passes between a session and a link that has been built. Each request is followed by the
calls that the link makes in carrying it out, in the state in which the request before left it. -/
def conversation (link : σ) : List (Event κ) :=
  let opened := transport.open link
  let written := transport.write bytes opened.state
  let closed := transport.close written.state
  .asked .open :: dealings opened.trace ++
    if opens opened.result then
      .asked (.write bytes) :: dealings written.trace ++ .asked .close :: dealings closed.trace
    else []

theorem dealings_deliver (link : σ) :
    dealings (deliver transport bytes ⟨.opening, link⟩).trace =
      conversation transport bytes link := by
  rcases opening_cases (transport.open link).result with h | ⟨h, hf⟩ | ⟨f, h, hf⟩
  · have hsent := dealings_writeAndClose transport bytes (transport.open link).state
    simp [conversation, deliver_of_open bytes h, h, hsent]
  · simp [conversation, deliver_of_closed bytes h hf, h, openLink_eq]
  · have hclosed : opens (transport.open link).result = false := by simp [opens, h]
    simp [conversation, deliver_of_interrupt bytes h hf, hclosed]

/-- The requests in a conversation: a link makes none of its own. -/
theorem requests_conversation (link : σ) :
    requests (conversation transport bytes link) =
      if opens (transport.open link).result then [.open, .write bytes, .close] else [.open] := by
  have hopen := transport.isQuiet_open link
  have hwrite := transport.isQuiet_write bytes (transport.open link).state
  have hclose := transport.isQuiet_close
    (transport.write bytes (transport.open link).state).state
  unfold conversation
  by_cases h : opens (transport.open link).result = true
  · simp [h, hopen, hwrite, hclose]
  · simp [h, hopen]

/-- The calls in a conversation: those of opening, and, with an open link, of writing and closing. -/
theorem calls_conversation (link : σ) :
    let opened := transport.open link
    let written := transport.write bytes opened.state
    let closed := transport.close written.state
    calls (conversation transport bytes link) =
      calls opened.trace ++
        if opens opened.result then calls written.trace ++ calls closed.trace else [] := by
  intro opened written closed
  unfold conversation
  by_cases h : opens (transport.open link).result = true
  · simp [opened, written, closed, h]
  · simp [opened, h]

section send

variable {factory : Factory κ σ} {endpoint : Endpoint} {payload : Payload} {bytes : Bytes}

theorem dealings_send (hb : payload.encode = .ok bytes) (s : Session) :
    dealings (send factory endpoint payload s).trace =
      dealings (built factory endpoint s).trace ++
        match (built factory endpoint s).result with
        | .error _ => []
        | .ok link => conversation factory.transport bytes link := by
  cases h : (built factory endpoint s).result with
  | error f =>
    by_cases hf : f.kind = .address
    · simp [send_of_refusal hb h hf]
    · simp [send_of_fault hb h hf]
  | ok link =>
    rw [send_of_link hb h]
    simp [dealings_deliver]

/-- **The calls of a send** are those of building its link and of the conversation with it. -/
theorem calls_send (hb : payload.encode = .ok bytes) (s : Session) :
    calls (send factory endpoint payload s).trace =
      calls (built factory endpoint s).trace ++
        match (built factory endpoint s).result with
        | .error _ => []
        | .ok link => calls (conversation factory.transport bytes link) := by
  rw [← calls_dealings, dealings_send hb, calls_append, calls_dealings]
  cases (built factory endpoint s).result <;> rfl

/-- **A link is opened once, and an open one is written to once and then closed once.** The requests
of a send are to open, and, if the link says that it is open, to write the bytes of the document and
to close; there are none if the link cannot be built. They are carried out one upon another, and
nothing else passes between the session and its link. Nothing is supposed of what the factory and
the link give or raise, so this holds of a send that ends with a fault as well. -/
theorem send_asks_once (hb : payload.encode = .ok bytes) (s : Session) :
    requests (send factory endpoint payload s).trace =
      (match (built factory endpoint s).result with
        | .error _ => []
        | .ok link =>
          if opens (factory.transport.open link).result then [.open, .write bytes, .close]
          else [.open]) ∧
    dealings (send factory endpoint payload s).trace =
      dealings (built factory endpoint s).trace ++
        match (built factory endpoint s).result with
        | .error _ => []
        | .ok link => conversation factory.transport bytes link := by
  have hdealings : dealings (send factory endpoint payload s).trace = _ := dealings_send hb s
  refine ⟨?_, hdealings⟩
  have hbuilt : requests (built factory endpoint s).trace = [] :=
    factory.isQuiet_create endpoint s.timeout s.dryRun ()
  -- The log holds no requests, so they can be counted in the dealings.
  rw [← requests_dealings, hdealings, requests_append, requests_dealings, hbuilt, List.nil_append]
  cases (built factory endpoint s).result with
  | error f => rfl
  | ok link => exact requests_conversation factory.transport bytes link

end send

/-- An interrupt of the writing escapes, and a fault of the closing is passed over: the link has
been asked to close in between. -/
theorem send_asks_once_interrupted :
    let script : Script := {
      writeFault := some ⟨.interrupt, []⟩, closeFault := some ⟨.connectionReset, "reset"⟩ }
    let run := send script.factory ⟨.kind .network, .text "10.0.0.5", .null⟩ (.text "^XA")
      { timeout := .int 5, dryRun := false }
    (Payload.text "^XA").encode = .ok [0x5E, 0x58, 0x41] ∧
      run.result = .error ⟨.interrupt, []⟩ ∧
      requests run.trace = [.open, .write [0x5E, 0x58, 0x41], .close] := by
  intro script run
  have hb : (Payload.text "^XA").encode = .ok [0x5E, 0x58, 0x41] := by rfl
  exact ⟨hb, by rfl, (send_asks_once hb _).1⟩

end Session

end LabelPress
