import LabelPress.Proofs.Link.Build
import LabelPress.Proofs.Link.Regular
import LabelPress.Proofs.Session.Course

/-!
# Faults become deliveries

A send over a regular link (`Transport.IsRegular`) ends with a delivery, whatever the link raises,
but for what cannot be put into words. Three things can stand in the way of that: the port of the
endpoint, the number of bytes taken, which may be too long to be written, and a kind that is none,
which the line on a refused connection has to name (`send_delivers_iff`). None of them is met over a
wire, whose links are built to endpoints of a kind (`send_over_wire_delivers`).
-/

namespace LabelPress

/-- There is a word for a kind if it is one. -/
theorem KindGiven.word_eq_ok_iff (given : KindGiven) :
    (∃ word, given.word = .ok word) ↔ given.kind?.isSome = true := by
  cases given with
  | kind k => cases k <;> simp [word, kind?]
  | bare v =>
    unfold word
    cases (KindGiven.bare v).kind? <;> simp

namespace Session

variable {κ σ : Type} {factory : Factory κ σ} {endpoint : Endpoint} {payload : Payload}
variable {bytes : Bytes} {s : Session}

/-! ## What can be reported -/

/-- A delivery can be reported if the endpoint can be shown, and with it the number of bytes that
the line of a sent document tells and the kind that the line of a refused connection names. -/
theorem reported_eq_ok_iff (d : Delivery) :
    (∃ d', reported endpoint (.ok d) = .ok d') ↔
      endpoint.isShowable = true ∧
        (d.outcome = .sent → Delivery.isShowableCount d.total d.sent = true) ∧
        (d.outcome = .connectionRefused → endpoint.kind.kind?.isSome = true) := by
  by_cases he : endpoint.isShowable = true
  · have hline : reportText endpoint d = d.summary (some endpoint) := if_pos he
    simp only [reported, hline]
    cases ho : d.outcome with
    | sent =>
      by_cases hc : Delivery.isShowableCount d.total d.sent = true <;>
        simp [Delivery.summary, Delivery.countText, ho, hc, he, Except.map]
    | connectionRefused =>
      rw [← endpoint.kind.word_eq_ok_iff]
      cases hw : endpoint.kind.word <;> simp [Delivery.summary, ho, he, hw, Except.map]
    | addressInvalid => simp [Delivery.summary, ho, he, Except.map]
    | writeFailed => simp [Delivery.summary, ho, he, Except.map]
  · simp [reported, reportText, he, Except.map]

/-- A number within the length of the document can be shown. -/
theorem isShowableCount_of_le {total : Nat} {n : Int} (h : n.natAbs ≤ total) :
    Delivery.isShowableCount total (.int n) = true := by
  have hle : (n.natAbs : Int) ≤ total := by omega
  simp only [Delivery.isShowableCount, hle, decide_true, Bool.or_true]

/-- What comes of the writing can be reported unless the number of bytes taken is too long. -/
theorem reported_writeTurn_eq_ok_iff (text : Text) (total : Nat) {r : Except Fault Value}
    (hf : ∀ f, r = .error f → f.isInterrupt = false)
    (hv : ∀ v, r = .ok v → v.IsCount) :
    (∃ d, reported endpoint (writeTurn text total r).result = .ok d) ↔
      endpoint.isShowable = true ∧
        ∀ n, r = .ok (.int n) → Delivery.isShowableCount total (.int n) = true := by
  cases r with
  | error f =>
    rw [show (writeTurn text total (.error f)).result =
      .ok (undelivered .writeFailed total f.detail) by simp [writeTurn, hf f rfl]]
    simp [reported_eq_ok_iff, undelivered]
  | ok v =>
    have hcount : v.IsCount := hv v rfl
    cases v with
    | null => simp [writeTurn, isProgress, takenText, Value.isSet, reported_eq_ok_iff, undelivered]
    | bool b =>
      cases b with
      | true =>
        simp [writeTurn, isProgress, reported_eq_ok_iff, Delivery.isShowableCount, Value.isShowable]
      | false =>
        simp [writeTurn, isProgress, takenText, Value.isSet, reported_eq_ok_iff, undelivered]
    | int n =>
      -- Only a count other than zero is written out.
      rcases Int.lt_trichotomy n 0 with hn | rfl | hn
      · have hpos : ¬ 0 < n := by omega
        have hset : (n != 0) = true := by simp; omega
        by_cases hc : Delivery.isShowableCount total (.int n) = true
        · simp [writeTurn, isProgress, takenText, Value.isSet, Delivery.countText, hpos, hset, hc,
            reported_eq_ok_iff, undelivered]
        · simp [writeTurn, isProgress, takenText, Value.isSet, Delivery.countText, hpos, hset, hc,
            reported]
      · have hc : Delivery.isShowableCount total (.int 0) = true := isShowableCount_of_le (by simp)
        simp [writeTurn, isProgress, takenText, Value.isSet, hc, reported_eq_ok_iff, undelivered]
      · simp [writeTurn, isProgress, hn, reported_eq_ok_iff]
    | _ => exact hcount.elim

/-! ## The three ways to a delivery -/

/-- A refused address is delivered as such if the endpoint can be shown. -/
theorem send_eq_ok_iff_of_refusal (hb : payload.encode = .ok bytes) {f : Fault}
    (h : (built factory endpoint s).result = .error f) (hf : f.kind = .address) :
    (∃ d, (send factory endpoint payload s).result = .ok d) ↔ endpoint.isShowable = true := by
  rw [send_of_refusal hb h hf]
  simp [reported_eq_ok_iff, undelivered]

/-- A link that does not open is delivered as a refused connection if there is a word for its
kind. -/
theorem send_eq_ok_iff_of_closed (hb : payload.encode = .ok bytes) {link : σ}
    (h : (built factory endpoint s).result = .ok link)
    (ho : opens (factory.transport.open link).result = false)
    (hf : ∀ f, (factory.transport.open link).result = .error f → f.isInterrupt = false) :
    (∃ d, (send factory endpoint payload s).result = .ok d) ↔
      endpoint.isShowable = true ∧ endpoint.kind.kind?.isSome = true := by
  simp only [send_of_link hb h, deliver_of_closed bytes ho hf]
  simp [reported_eq_ok_iff, undelivered]

/-- Over an open link there is a delivery unless the number of bytes taken is too long. -/
theorem send_eq_ok_iff_of_open (hb : payload.encode = .ok bytes) {link : σ}
    (h : (built factory endpoint s).result = .ok link)
    (ho : opens (factory.transport.open link).result = true)
    (ht : factory.transport.IsRegular) :
    (∃ d, (send factory endpoint payload s).result = .ok d) ↔
      endpoint.isShowable = true ∧
        ∀ n, (factory.transport.write bytes (factory.transport.open link).state).result =
          .ok (.int n) → Delivery.isShowableCount bytes.length (.int n) = true := by
  obtain ⟨hresult, -⟩ := writeAndClose_result factory.transport bytes
    (factory.transport.open link).state fun f hf => ht.close_ends.fault_of_error hf
  simp only [send_of_link hb h, deliver_of_open bytes ho, hresult]
  exact reported_writeTurn_eq_ok_iff _ _
    (fun f hf => (ht.write_ends bytes).fault_of_error hf)
    (fun v hv => (ht.write_ends bytes).value_of_ok hv)

/-- **When a send delivers.** Over a regular link, and with a factory that raises nothing but refused
addresses, a send ends with a delivery exactly if that can be put into words: the port is not too
long to be shown with the endpoint, and, where there is a link, its endpoint is of a kind if it does
not open, and the number of bytes it took is not too long if it does. -/
theorem send_delivers_iff (ht : factory.transport.IsRegular)
    (hc : ∀ f, (built factory endpoint s).result = .error f → f.kind = .address)
    (hb : payload.encode = .ok bytes) :
    (∃ d, (send factory endpoint payload s).result = .ok d) ↔
      endpoint.isShowable = true ∧
        ∀ link, (built factory endpoint s).result = .ok link →
          if opens (factory.transport.open link).result then
            ∀ n, (factory.transport.write bytes (factory.transport.open link).state).result =
              .ok (.int n) → Delivery.isShowableCount bytes.length (.int n) = true
          else endpoint.kind.kind?.isSome = true := by
  cases h : (built factory endpoint s).result with
  | error f =>
    rw [send_eq_ok_iff_of_refusal hb h (hc f h)]
    simp
  | ok link =>
    simp only [Except.ok.injEq, forall_eq']
    cases ho : opens (factory.transport.open link).result with
    | true => rw [send_eq_ok_iff_of_open hb h ho ht, if_pos rfl]
    | false =>
      rw [send_eq_ok_iff_of_closed hb h ho fun f hf => ht.open_ends.fault_of_error hf,
        if_neg (by simp)]

/-- A link that resets in writing and again in closing still gives a delivery. -/
theorem send_delivers_after_resets :
    let script : Script := {
      writeFault := some ⟨.connectionReset, "reset"⟩, closeFault := some ⟨.value, "reset"⟩ }
    let endpoint : Endpoint := ⟨.bare (.text "usb"), .text "10.0.0.5", .null⟩
    let s : Session := { timeout := .int 5, dryRun := false }
    script.factory.transport.IsRegular ∧
      (∀ f, (built script.factory endpoint s).result = .error f → f.kind = .address) ∧
      (Payload.text "^XA").encode = .ok [0x5E, 0x58, 0x41] ∧
      ∃ d, (send script.factory endpoint (.text "^XA") s).result = .ok d := by
  intro script endpoint s
  have ht : script.factory.transport.IsRegular := Script.isRegular_transport (by
    constructor <;> simp [script, Fault.IsOrdinary, Fault.isInterrupt])
  have hbuilt : (built script.factory endpoint s).result =
      .ok { carrier := (), timeout := .int 5, dryRun := false } := by rfl
  have hc : ∀ f, (built script.factory endpoint s).result = .error f → f.kind = .address := by
    simp [hbuilt]
  have hb : (Payload.text "^XA").encode = .ok [0x5E, 0x58, 0x41] := by rfl
  refine ⟨ht, hc, hb, (send_delivers_iff ht hc hb).2 ⟨by rfl, fun link hlink => ?_⟩⟩
  obtain rfl := Except.ok.inj (hbuilt.symm.trans hlink)
  exact fun n hn => nomatch hn

/-- **A refused connection over a kind that is none raises a fault** in place of a delivery, although
the link is regular: the line on it has no word for the kind. -/
theorem send_raises_for_unknown_kind :
    let script : Script := { openFault := some ⟨.connectionRefused, "no route"⟩ }
    let endpoint : Endpoint := ⟨.bare (.text "usb"), .text "10.0.0.5", .null⟩
    let s : Session := { timeout := .int 5, dryRun := false }
    script.factory.transport.IsRegular ∧
      (∀ f, (built script.factory endpoint s).result = .error f → f.kind = .address) ∧
      (Payload.text "^XA").encode = .ok [0x5E, 0x58, 0x41] ∧
      (send script.factory endpoint (.text "^XA") s).result =
        .error ⟨.value, "'usb' is not a valid TransportKind"⟩ := by
  intro script endpoint s
  refine ⟨Script.isRegular_transport ?_, ?_, by rfl, by rfl⟩
  · constructor <;> simp [script, Fault.IsOrdinary, Fault.isInterrupt]
  · intro f hf
    cases hf

/-! ## Over a wire -/

/-- A link over an uninterrupted wire that says how many bytes it took tells the length of the
document. -/
theorem write_over_wire {wire : Wire} (hw : wire.IsUninterrupted) {link : Link Line} {n : Int}
    (h : (wire.factory.transport.write bytes link).result = .ok (.int n)) : n = bytes.length := by
  have hends : (wire.factory.transport.write bytes).Ends (· = .int bytes.length) Fault.IsOrdinary :=
    Link.write_ends rfl (Line.transmit_ends hw bytes)
  exact Value.int.inj (hends.value_of_ok h)

/-- **Every send over a wire delivers**, unless it is interrupted: to any endpoint whose kind and
port can be written, texts, truth values and numbers of up to 4300 digits being such, of any
document that has bytes, dry or not, and whatever ordinary faults the calls of the wire raise. -/
theorem send_over_wire_delivers {wire : Wire} (hw : wire.IsUninterrupted)
    (hkind : endpoint.kind.toValue.isShowable = true) (hport : endpoint.port.isShowable = true)
    (hb : payload.encode = .ok bytes) (s : Session) :
    ∃ d, (send wire.factory endpoint payload s).result = .ok d := by
  have ht : wire.factory.transport.IsRegular := Line.isRegular_transport hw
  have he : endpoint.isShowable = true := Endpoint.isShowable_of_port hport
  cases htarget : Line.target? endpoint with
  | error p =>
    -- A refusal that cannot be put into words would not be a refusal but a fault.
    have hp : p.isShowable = true := Line.isShowable_of_target? hkind hport htarget
    have h : (built wire.factory endpoint s).result = .error p.fault :=
      congrArg Run.result (Line.create_of_refusal htarget wire s.timeout s.dryRun)
    exact (send_eq_ok_iff_of_refusal hb h (by simp [AddressProblem.fault, hp])).2 he
  | ok target =>
    have h : (built wire.factory endpoint s).result =
        .ok (Line.fresh target s.timeout s.dryRun) :=
      congrArg Run.result (Line.create_of_target htarget wire s.timeout s.dryRun)
    cases ho : opens (wire.factory.transport.open (Line.fresh target s.timeout s.dryRun)).result with
    | true =>
      refine (send_eq_ok_iff_of_open hb h ho ht).2 ⟨he, fun n hn => ?_⟩
      have hlen := write_over_wire hw hn
      exact isShowableCount_of_le (by omega)
    | false =>
      -- The line names the kind, and without one there would be no link.
      exact (send_eq_ok_iff_of_closed hb h ho fun f hf => ht.open_ends.fault_of_error hf).2
        ⟨he, by rw [Line.kind?_of_target? htarget]; rfl⟩

/-- A radio socket that is refused, and that then cannot be closed either, is a delivery still. -/
theorem send_over_failing_wire_delivers :
    let wire : Wire := {
      connect := some ⟨.connectionRefused, "refused"⟩, close := some ⟨.runtime, "stuck"⟩ }
    let endpoint : Endpoint := ⟨.bare (.text "bluetooth"), .text "00:11:22:aa:bb:cc", .null⟩
    wire.IsUninterrupted ∧ endpoint.kind.toValue.isShowable = true ∧
      endpoint.port.isShowable = true ∧ (Payload.text "é").encode = .ok [0xC3, 0xA9] ∧
      ∃ d, (send wire.factory endpoint (.text "é") { timeout := .int 5, dryRun := false }).result =
        .ok d := by
  intro wire endpoint
  have hw : wire.IsUninterrupted := by
    constructor <;> simp [wire, Fault.IsOrdinary, Fault.isInterrupt]
  have hb : (Payload.text "é").encode = .ok [0xC3, 0xA9] := by rfl
  exact ⟨hw, rfl, rfl, hb, send_over_wire_delivers hw rfl rfl hb _⟩

end Session

end LabelPress
