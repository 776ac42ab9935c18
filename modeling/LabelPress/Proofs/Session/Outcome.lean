import LabelPress.Proofs.Session.Faults

/-!
# Outcomes

Which outcome a delivery has is settled by what the factory and the link answered, and by nothing
else: there is one way of answering for each outcome, and `Ending` has them. A send that delivers
ends in one of them (`ending_of_send`), so the outcome can be read off the answers and the answers
off the outcome (`outcome_iff_answers`), and with it the numbers of bytes and what becomes of the
session.
-/

namespace LabelPress

/-- The number that a count of bytes is. A count that is missing is none. -/
def Value.count : Value → Int
  | .int n => n
  | .bool b => b.toNat
  | _ => 0

namespace Session

variable {κ σ : Type}

/-- Whether an answer to the request to open says no, which an ordinary fault does too. -/
def Declines : Except Fault Value → Prop
  | .ok opened => opened.isSet = false
  | .error f => f.IsOrdinary

/-- Whether an answer to the request to write says that nothing was taken, which an ordinary fault
does too. -/
def TakesNothing : Except Fault Value → Prop
  | .ok taken => taken.count ≤ 0
  | .error f => f.IsOrdinary

/-- What a link answers to the request to write that follows the one to open. -/
abbrev written (factory : Factory κ σ) (bytes : Bytes) (link : σ) : Except Fault Value :=
  (factory.transport.write bytes (factory.transport.open link).state).result

/-- The ways in which a send can end with a delivery, each with the answers that lead there, the
delivery, the phase that the session is left in, and whether it keeps a link. -/
inductive Ending (factory : Factory κ σ) (endpoint : Endpoint) (bytes : Bytes) (s : Session) :
    Delivery → Phase → (linked : Bool) → Prop
  /-- The address is refused. -/
  | addressInvalid {f : Fault} :
      (built factory endpoint s).result = .error f → f.kind = .address →
      Ending factory endpoint bytes s (undelivered .addressInvalid bytes.length f.message)
        .failed false
  /-- The link does not open. -/
  | connectionRefused {link : σ} {detail : Text} :
      (built factory endpoint s).result = .ok link →
      Declines (factory.transport.open link).result → detail ≠ [] →
      Ending factory endpoint bytes s (undelivered .connectionRefused bytes.length detail)
        .failed true
  /-- The link opens and takes nothing. -/
  | writeFailed {link : σ} {detail : Text} :
      (built factory endpoint s).result = .ok link →
      opens (factory.transport.open link).result = true →
      TakesNothing (written factory bytes link) → detail ≠ [] →
      Ending factory endpoint bytes s (undelivered .writeFailed bytes.length detail)
        .failed true
  /-- The link opens and takes something. -/
  | sent {link : σ} {taken : Value} :
      (built factory endpoint s).result = .ok link →
      opens (factory.transport.open link).result = true →
      written factory bytes link = .ok taken → 0 < taken.count →
      Ending factory endpoint bytes s { outcome := .sent, sent := taken, total := bytes.length }
        .closed true

/-! ## The turns -/

/-- An answer that says no does not say yes. -/
theorem opens_of_declines {r : Except Fault Value} (h : Declines r) : opens r = false := by
  cases r with
  | ok opened => exact h
  | error f => rfl

theorem not_declines_of_opens {r : Except Fault Value} (h : opens r = true) : ¬ Declines r := by
  intro hno
  rw [opens_of_declines hno] at h
  cases h

/-- A count tells progress if it is above zero. -/
theorem isProgress_of_isCount {v : Value} (h : v.IsCount) :
    isProgress v = .ok (decide (0 < v.count)) := by
  cases v with
  | null => rfl
  | bool b => cases b <;> rfl
  | int n => rfl
  | _ => exact h.elim

theorem detail_ne_nil (f : Fault) : f.detail ≠ [] := by
  unfold Fault.detail
  split
  · cases f.kind <;> simp [FaultKind.name, Text.ofString]
  · next h => simpa using h

theorem openFailure_ne_nil (view : LinkView) : openFailure view ≠ [] := by
  unfold openFailure
  split
  · simp [Text.ofString]
  · simp [Text.ofString]
  · next hne _ => exact hne

/-- A delivery of the turn after writing is a failure if nothing was taken, and tells what was taken
otherwise. -/
theorem writeTurn_of_ok {text : Text} {total : Nat} {r : Except Fault Value} {d : Delivery}
    (hr : ∀ v, r = .ok v → v.IsCount) (h : (writeTurn text total r).result = .ok d) :
    (TakesNothing r ∧ (writeTurn text total r).phase = .failed ∧
      ∃ detail, detail ≠ [] ∧ d = undelivered .writeFailed total detail) ∨
    (∃ taken, r = .ok taken ∧ 0 < taken.count ∧ (writeTurn text total r).phase = .open ∧
      d = { outcome := .sent, sent := taken, total }) := by
  cases r with
  | error f =>
    cases hf : f.isInterrupt with
    | true => simp [writeTurn, hf] at h
    | false =>
      obtain rfl : undelivered .writeFailed total f.detail = d := by simpa [writeTurn, hf] using h
      exact .inl ⟨hf, by simp [writeTurn, hf], f.detail, detail_ne_nil f, rfl⟩
  | ok taken =>
    have hp := isProgress_of_isCount (hr taken rfl)
    by_cases hpos : 0 < taken.count
    · rw [decide_eq_true hpos] at hp
      simp only [writeTurn, hp] at h ⊢
      exact .inr ⟨taken, rfl, hpos, trivial, (Except.ok.inj h).symm⟩
    · rw [decide_eq_false hpos] at hp
      have hnone : TakesNothing (.ok taken) := Int.not_lt.1 hpos
      simp only [writeTurn, hp] at h ⊢
      cases hcount : takenText total taken with
      | error f => simp [hcount] at h
      | ok count =>
        simp only [hcount] at h ⊢
        exact .inl ⟨hnone, trivial, _, by simp [Text.ofString], (Except.ok.inj h).symm⟩

/-! ## The endings -/

section send

variable {factory : Factory κ σ} {endpoint : Endpoint} {payload : Payload} {bytes : Bytes}
variable {s : Session} {d : Delivery}

/-- **A send that delivers ends in one of the four ways.** -/
theorem ending_of_send (hb : payload.encode = .ok bytes)
    (hcount : ∀ link v, (built factory endpoint s).result = .ok link →
      written factory bytes link = .ok v → v.IsCount)
    (h : (send factory endpoint payload s).result = .ok d) :
    let left := (send factory endpoint payload s).state
    Ending factory endpoint bytes s d left.phase left.link.isSome := by
  cases hbuilt : (built factory endpoint s).result with
  | error f =>
    by_cases hf : f.kind = .address
    · rw [send_of_refusal hb hbuilt hf] at h ⊢
      obtain rfl := Except.ok.inj (eq_of_reported h)
      exact .addressInvalid hbuilt hf
    · simp [send_of_fault hb hbuilt hf] at h
  | ok link =>
    rw [send_of_link hb hbuilt] at h ⊢
    have hd := eq_of_reported h
    rcases opening_cases (factory.transport.open link).result with ho | ⟨ho, hf⟩ | ⟨f, ho, hf⟩
    · simp only [deliver_of_open bytes ho] at hd ⊢
      -- The closing has let the delivery through, so that it is the one of the writing.
      obtain ⟨hturn, hphase⟩ := writeAndClose_of_ok factory.transport hd
      rw [hphase]
      rcases writeTurn_of_ok (hcount link · hbuilt) hturn with
        ⟨hnone, hfailed, detail, hdetail, rfl⟩ | ⟨taken, htaken, hpos, hopen, rfl⟩
      · rw [hfailed]
        exact .writeFailed hbuilt ho hnone hdetail
      · rw [hopen]
        exact .sent hbuilt ho htaken hpos
    · simp only [deliver_of_closed bytes ho hf] at hd ⊢
      obtain rfl := Except.ok.inj hd
      refine .connectionRefused hbuilt ?_ (openFailure_ne_nil _)
      cases hr : (factory.transport.open link).result with
      | ok opened => simpa [opens, Declines, hr] using ho
      | error f => exact hf f hr
    · simp [deliver_of_interrupt bytes ho hf] at hd

/-- **The outcome tells how the link answered.** Of a send that delivers, the address is invalid if
the factory refused it, the connection is refused if the link did not open, the writing failed if
the open link took nothing, and the document was sent if it took something; and each the other way
round. The delivery tells the length of the document and what was taken of it, nothing unless it was
sent. The session is closed if the document was sent and has failed otherwise, and it keeps the link
unless the address was invalid. -/
theorem outcome_iff_answers (hb : payload.encode = .ok bytes)
    (hcount : ∀ link v, (built factory endpoint s).result = .ok link →
      written factory bytes link = .ok v → v.IsCount)
    (h : (send factory endpoint payload s).result = .ok d) :
    let left := (send factory endpoint payload s).state
    (d.outcome = .addressInvalid ↔
      ∃ f, (built factory endpoint s).result = .error f ∧ f.kind = .address) ∧
    (d.outcome = .connectionRefused ↔
      ∃ link, (built factory endpoint s).result = .ok link ∧
        Declines (factory.transport.open link).result) ∧
    (d.outcome = .writeFailed ↔
      ∃ link, (built factory endpoint s).result = .ok link ∧
        opens (factory.transport.open link).result = true ∧
        TakesNothing (written factory bytes link)) ∧
    (d.outcome = .sent ↔
      ∃ link taken, (built factory endpoint s).result = .ok link ∧
        opens (factory.transport.open link).result = true ∧
        written factory bytes link = .ok taken ∧ 0 < taken.count) ∧
    d.total = bytes.length ∧
    (d.outcome = .sent → ∃ link, (built factory endpoint s).result = .ok link ∧
      written factory bytes link = .ok d.sent) ∧
    (d.outcome ≠ .sent → d.sent = .int 0) ∧
    left.phase = (if d.ok then .closed else .failed) ∧
    (left.link = none ↔ d.outcome = .addressInvalid) := by
  intro left
  have hending : Ending factory endpoint bytes s d left.phase left.link.isSome :=
    ending_of_send hb hcount h
  -- Each ending fixes the answers, and so it decides for every outcome whether they are its own.
  generalize hl : left.link.isSome = linked at hending
  generalize left.phase = phase at hending
  cases hending with
  | addressInvalid hbuilt hf =>
    have hlink : left.link = none := by simpa using hl
    simp [hbuilt, hf, hlink, undelivered, Delivery.ok]
  | connectionRefused hbuilt ho _ =>
    have hlink : left.link ≠ none := Option.isSome_iff_ne_none.1 hl
    simp [hbuilt, ho, opens_of_declines ho, hlink, undelivered, Delivery.ok]
  | @writeFailed link _ hbuilt ho hw _ =>
    have hlink : left.link ≠ none := Option.isSome_iff_ne_none.1 hl
    have hyes : ¬ Declines (factory.transport.open link).result := not_declines_of_opens ho
    have hnone : ∀ taken, written factory bytes link = .ok taken → taken.count ≤ 0 := by
      intro taken htaken
      simpa [TakesNothing, htaken] using hw
    simpa [hbuilt, ho, hyes, hw, hlink, undelivered, Delivery.ok] using hnone
  | @sent link taken hbuilt ho hw hpos =>
    have hlink : left.link ≠ none := Option.isSome_iff_ne_none.1 hl
    have hyes : ¬ Declines (factory.transport.open link).result := not_declines_of_opens ho
    have hsome : ¬ TakesNothing (.ok taken) := Int.not_le.2 hpos
    simp [hbuilt, ho, hyes, hw, hpos, hsome, hlink, Delivery.ok]

end send

/-- A link that takes two bytes of three, and that then cannot be closed, has sent the document. -/
theorem outcome_of_short_count :
    let script : Script := {
      writeResult := some (.int 2), closeFault := some ⟨.value, "stuck"⟩ }
    let endpoint : Endpoint := ⟨.kind .network, .text "10.0.0.5", .null⟩
    let s : Session := { timeout := .int 5, dryRun := false }
    let run := send script.factory endpoint (.text "^XA") s
    (Payload.text "^XA").encode = .ok [0x5E, 0x58, 0x41] ∧
      (∀ link v, (built script.factory endpoint s).result = .ok link →
        written script.factory [0x5E, 0x58, 0x41] link = .ok v → v.IsCount) ∧
      ∃ d, run.result = .ok d ∧ d.outcome = .sent ∧ d.sent = .int 2 ∧ d.total = 3 ∧
        run.state.phase = .closed ∧ run.state.link ≠ none := by
  intro script endpoint s run
  have hb : (Payload.text "^XA").encode = .ok [0x5E, 0x58, 0x41] := by rfl
  have ht : script.factory.transport.IsRegular := Script.isRegular_transport (by
    constructor <;> simp [script, Fault.IsOrdinary, Fault.isInterrupt, Value.IsCount])
  have hcount : ∀ link v, (built script.factory endpoint s).result = .ok link →
      written script.factory [0x5E, 0x58, 0x41] link = .ok v → v.IsCount :=
    fun link v _ hv => (ht.write_ends _).value_of_ok hv
  have hbuilt : (built script.factory endpoint s).result =
      .ok { carrier := (), timeout := .int 5, dryRun := false } := by rfl
  have htwo : written script.factory [0x5E, 0x58, 0x41]
      { carrier := (), timeout := .int 5, dryRun := false } = .ok (.int 2) := by rfl
  obtain ⟨d, hd⟩ : ∃ d, run.result = .ok d :=
    (send_eq_ok_iff_of_open hb hbuilt (by rfl) ht).2
      ⟨Endpoint.isShowable_of_port rfl, fun n hn => by
        obtain rfl : 2 = n := Value.int.inj (Except.ok.inj (htwo.symm.trans hn))
        exact isShowableCount_of_le (by decide)⟩
  obtain ⟨-, -, -, hsent, htotal, htaken, -, hphase, hlink⟩ := outcome_iff_answers hb hcount hd
  have ho : d.outcome = .sent := hsent.2 ⟨_, _, hbuilt, by rfl, htwo, by decide⟩
  obtain ⟨link, hlink', hwritten⟩ := htaken ho
  obtain rfl := Except.ok.inj (hbuilt.symm.trans hlink')
  refine ⟨hb, hcount, d, hd, ho, (Except.ok.inj (htwo.symm.trans hwritten)).symm, htotal, ?_, ?_⟩
  · simpa [Delivery.ok, ho] using hphase
  · exact fun h => by simp [hlink.1 h] at ho

end Session

end LabelPress
