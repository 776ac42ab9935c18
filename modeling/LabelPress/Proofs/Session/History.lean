import LabelPress.Link.Rehearsal
import LabelPress.Proofs.Session.Course

/-!
# Sends on a session that has sent before

A session carries its phase and the view of its last link from one send to the next, and a send may
leave them in any state: it can be interrupted half-way, or not begin at all. What it keeps are the
settings of the session (`anew_send`), and these are all that the next one reads (`send_anew`). So
that is the send of a session with the same settings that has not sent before (`send_after`).
-/

namespace LabelPress

/-- A send that a session is asked for: the document, where it is to go, and what builds the link,
which is as the factory and the wire are at the time. -/
structure Errand where
  κ : Type
  σ : Type
  factory : Factory κ σ
  endpoint : Endpoint
  payload : Payload

namespace Session

/-- A newly built session with the settings of a session. -/
def anew (s : Session) : Session := { timeout := s.timeout, dryRun := s.dryRun }

/-- A session after some errands, one after another, whatever each ended with. -/
def after (s : Session) (errands : List Errand) : Session :=
  errands.foldl (fun s e => (send e.factory e.endpoint e.payload s).state) s

theorem after_cons (s : Session) (e : Errand) (errands : List Errand) :
    s.after (e :: errands) = (send e.factory e.endpoint e.payload s).state.after errands := rfl

section send

variable {κ σ : Type} (factory : Factory κ σ) (endpoint : Endpoint) {payload : Payload}
variable {bytes : Bytes}

/-- **A send keeps the settings of its session**, also if it is interrupted or does not begin. -/
theorem anew_send (payload : Payload) (s : Session) :
    (send factory endpoint payload s).state.anew = s.anew := by
  cases hb : payload.encode with
  | error f => rw [send_of_unencodable hb]
  | ok bytes =>
    cases h : (built factory endpoint s).result with
    | ok link =>
      rw [send_of_link hb h]
      rfl
    | error f =>
      by_cases hf : f.kind = .address
      · rw [send_of_refusal hb h hf]
        rfl
      · rw [send_of_fault hb h hf]
        rfl

/-- So do any number of sends. -/
theorem anew_after (errands : List Errand) (s : Session) : (s.after errands).anew = s.anew := by
  induction errands generalizing s with
  | nil => rfl
  | cons e errands ih => rw [after_cons, ih, anew_send]

/-- **A send that begins reads nothing but the settings**: its phase is reset, and it has no link. -/
theorem send_anew (hb : payload.encode = .ok bytes) (s : Session) :
    send factory endpoint payload s = send factory endpoint payload s.anew := by
  have hreset : { s.anew with phase := .idle, link := none } =
      { s with phase := .idle, link := none } := rfl
  simp only [send, Action.bind_apply, hb, Action.ofExcept_apply, Action.modify_apply, hreset]

/-- **What a session has sent before is nothing to the next send.** After any errands, whatever each
ended with, the send of a document that can be encoded is that of a newly built session with the
same settings: in its result, in everything it asks of the link and the link of the wire, in its
log, and in how it leaves the session. In its result and its trace it is the send by a session of
its own. -/
theorem send_after (hb : payload.encode = .ok bytes) (s : Session) (errands : List Errand) :
    let next := send factory endpoint payload (s.after errands)
    let once := sendOnce s.timeout s.dryRun factory endpoint payload
    next = send factory endpoint payload s.anew ∧
      next.result = once.result ∧ next.trace = once.trace := by
  intro next once
  have hnext : next = send factory endpoint payload s.anew := by
    calc next = send factory endpoint payload (s.after errands).anew := send_anew _ _ hb _
      _ = send factory endpoint payload s.anew := by rw [anew_after]
  have honce : once = send factory endpoint payload s.anew := rfl
  rw [hnext, honce]
  exact ⟨rfl, rfl, rfl⟩

end send

/-- A session that was interrupted in opening a link, and then given a document that cannot be
encoded, still sends like a new one. -/
theorem send_after_interrupt :
    let interrupted : Script := { openFault := some ⟨.interrupt, []⟩ }
    let script : Script := { writeFault := some ⟨.brokenPipe, "gone"⟩ }
    let endpoint : Endpoint := ⟨.kind .network, .text "10.0.0.5", .null⟩
    let s : Session := { timeout := .int 5, dryRun := false }
    let left := s.after [⟨_, _, interrupted.factory, endpoint, .text "^XA"⟩,
      ⟨_, _, script.factory, endpoint, .text [.lone 0]⟩]
    (Payload.text "^XA").encode = .ok [0x5E, 0x58, 0x41] ∧
      left.phase = .opening ∧ left.link.isSome = true ∧
      send script.factory endpoint (.text "^XA") left =
        send script.factory endpoint (.text "^XA") s := by
  intro interrupted script endpoint s left
  have hb : (Payload.text "^XA").encode = .ok [0x5E, 0x58, 0x41] := by rfl
  obtain ⟨hsend, -⟩ := send_after script.factory endpoint hb s
    [⟨_, _, interrupted.factory, endpoint, .text "^XA"⟩,
      ⟨_, _, script.factory, endpoint, .text [.lone 0]⟩]
  exact ⟨hb, by rfl, by rfl, hsend⟩

end Session

end LabelPress
