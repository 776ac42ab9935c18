import LabelPress.Proofs.Link.Runs

/-!
# Which fault a delivery tells

A live send that does not get through has met a fault, and in letting go of the socket it may meet
others. The delivery should tell the first: why the target was not reached, or why the document was
not sent. Of the writing it always does, as what comes after that is logged and passed over
(`result_of_sendall`). Of the connecting it does unless the closing of a radio socket that the
operating system could not connect raises a fault in its turn, which then ends the connecting in
place of the first. `tells_first_fault_iff` says that this is the one exception.
-/

namespace LabelPress

/-- How a delivery tells of the fault that ended the connecting: by its wording. One of the
operating system without any is told by the link that could not be opened, others by their kind. -/
def Target.refusal (target : Target) (f : Fault) : Text :=
  if f.isOs ∧ f.message = [] then "could not open " ++ Line.describe { target } else f.detail

theorem Fault.detail_of_message {f : Fault} (h : f.message ≠ []) : f.detail = f.message := by
  rw [detail, if_neg (by simpa using h)]

theorem Target.refusal_of_message (target : Target) {f : Fault} (h : f.message ≠ []) :
    target.refusal f = f.message := by
  rw [refusal, if_neg fun hno => h hno.2, Fault.detail_of_message h]

namespace Wire

/-- The fault of the call that connects to a target, if that call is made and raises one. For a
radio target it takes a radio socket to make it. -/
def callFault (wire : Wire) : Target → Option Fault
  | .network .. => wire.connect
  | .radio .. => if wire.bluetooth && wire.socket.isNone then wire.connect else none

/-- That a fault of connecting is followed by another in letting go of the radio socket that was to
be connected. -/
structure Supplants (wire : Wire) (target : Target) (first second : Fault) : Prop where
  radio : target.kind = .bluetooth
  issues : wire.issues target = true
  connect : wire.connect = some first
  isOs : first.isOs = true
  close : wire.close = some second

variable {wire : Wire} {target : Target} {f g : Fault}

theorem Supplants.connectFault_eq (h : wire.Supplants target f g) :
    wire.connectFault target = some g ∧ wire.callFault target = some f := by
  cases target with
  | network host port => cases h.radio
  | radio device channel =>
    obtain ⟨hbluetooth, hsocket⟩ : wire.bluetooth = true ∧ wire.socket = none := by
      simpa [Wire.issues] using h.issues
    simp [connectFault, callFault, hbluetooth, hsocket, h.connect, h.isOs, h.close]

/-- **The fault that ends the connecting** is that of the call which connects, or the one that has
taken its place. -/
theorem connectFault_of_callFault (h : wire.callFault target = some f) :
    wire.connectFault target = some f ∨
      ∃ g, wire.Supplants target f g ∧ wire.connectFault target = some g := by
  cases target with
  | network host port => exact .inl h
  | radio device channel =>
    cases hissues : wire.issues (.radio device channel) with
    | false =>
      have hno : ¬ (wire.bluetooth && wire.socket.isNone) = true := Bool.eq_false_iff.1 hissues
      rw [callFault, if_neg hno] at h
      cases h
    | true =>
      obtain ⟨hbluetooth, hsocket⟩ : wire.bluetooth = true ∧ wire.socket = none := by
        simpa [Wire.issues] using hissues
      have hconnect : wire.connect = some f := by simpa [callFault, hbluetooth, hsocket] using h
      cases hos : f.isOs with
      | false => exact .inl (by simp [connectFault, hbluetooth, hsocket, hconnect, hos])
      | true =>
        cases hclose : wire.close with
        | none => exact .inl (by simp [connectFault, hbluetooth, hsocket, hconnect, hos, hclose])
        | some g =>
          have hsupplants : wire.Supplants (.radio device channel) f g :=
            ⟨rfl, hissues, hconnect, hos, hclose⟩
          exact .inr ⟨g, hsupplants, hsupplants.connectFault_eq.1⟩

end Wire

namespace Line

variable {wire : Wire} {target : Target} {f : Fault}

/-- A link that could not be opened is described as it was before. -/
theorem describe_opened (timeout : Value) (h : wire.connectFault target = some f) :
    (wire.factory.transport.view
      (wire.factory.transport.open (fresh target timeout false)).state).describe =
        describe { target } := by
  have hreaches : wire.reaches target = false := by
    rw [← Bool.not_eq_true, ← wire.connectFault_eq_none_iff, h]
    exact nofun
  obtain ⟨hline, -⟩ := connect_of_fault wire { target } timeout h
  obtain ⟨-, hstate, -⟩ :=
    @Link.connect_of_live_fault _ _ (carrier wire) (fresh target timeout false) rfl f hline
  have hcarrier : (wire.factory.transport.open (fresh target timeout false)).state.carrier =
      (connect wire timeout { target }).state := congrArg Link.carrier hstate
  calc (wire.factory.transport.view
        (wire.factory.transport.open (fresh target timeout false)).state).describe
      = describe (connect wire timeout { target }).state := congrArg describe hcarrier
    _ = describe { target } := by
        rw [state_connect_of_not_reached wire { target } timeout hreaches]
        rfl

/-- **What is noted of a link that could not be opened**: the fault that ended the connecting. -/
theorem openFailure_of_fault (timeout : Value) (h : wire.connectFault target = some f)
    (hf : f.IsOrdinary) :
    Session.openFailure (wire.factory.transport.view
      (Session.openedLink wire.factory.transport (fresh target timeout false))) =
        target.refusal f := by
  obtain ⟨hopen, hnoted, -⟩ := open_of_fault wire target timeout h
  have hdescribe := describe_opened timeout h
  unfold Session.openedLink Session.openFailure
  cases hos : f.isOs with
  | true =>
    rw [hos, if_pos rfl] at hopen
    rw [hopen]
    simp only [hnoted hos, hdescribe, Target.refusal, hos, true_and]
    cases hm : f.message with
    | nil => rfl
    | cons c rest => simp [Fault.detail, hm]
  | false =>
    rw [hos, if_neg (by simp)] at hopen
    have hne : f.detail ≠ [] := Session.detail_ne_nil f
    rw [hopen]
    simp only [show f.isInterrupt = false from hf, Bool.false_eq_true, if_false,
      wire.factory.transport.view_noteError, Target.refusal, hos, false_and]

end Line

namespace Session

variable {endpoint : Endpoint} {payload : Payload} {bytes : Bytes} {wire : Wire} {target : Target}
variable {f : Fault}

/-- **A target that is not reached** is a refused connection, told by the fault that ended the
connecting. -/
theorem result_of_connectFault (hb : payload.encode = .ok bytes) (hw : wire.IsUninterrupted)
    (ht : Line.target? endpoint = .ok target) (s : Session)
    (h : wire.connectFault target = some f) :
    (send wire.factory endpoint payload { s with dryRun := false }).result =
      .ok (undelivered .connectionRefused bytes.length (target.refusal f)) := by
  have hregular : wire.factory.transport.IsRegular := Line.isRegular_transport hw
  have hbuilt := built_of_target ht wire { s with dryRun := false }
  have hordinary : ∀ g, (wire.factory.transport.open
      (Line.fresh target s.timeout false)).result = .error g → g.IsOrdinary :=
    fun g hg => hregular.open_ends.fault_of_error hg
  have hopens : opens (wire.factory.transport.open
      (Line.fresh target s.timeout false)).result = false := by
    rw [Line.opens_fresh, ← Bool.not_eq_true, ← wire.connectFault_eq_none_iff, h]
    exact nofun
  have hf : f.IsOrdinary := by
    cases hos : f.isOs with
    | true => exact Fault.isOrdinary_of_isOs hos
    | false =>
      obtain ⟨hopen, -⟩ := Line.open_of_fault wire target s.timeout h
      rw [hos, if_neg (by simp)] at hopen
      exact hordinary f hopen
  obtain ⟨d, hd⟩ := send_delivers_of_target hb hw ht { s with dryRun := false }
  rw [hd]
  simp only [send_of_link hb hbuilt, deliver_of_closed bytes hopens hordinary] at hd
  rw [← eq_of_reported hd, Line.openFailure_of_fault s.timeout h hf]

/-- **A document that could not be sent** is told by the fault in sending it, whatever letting go of
the socket raises. -/
theorem result_of_sendall (hb : payload.encode = .ok bytes) (hw : wire.IsUninterrupted)
    (ht : Line.target? endpoint = .ok target) (s : Session) (hreaches : wire.reaches target = true)
    (h : wire.sendall = some f) :
    (send wire.factory endpoint payload { s with dryRun := false }).result =
      .ok (undelivered .writeFailed bytes.length f.detail) := by
  have hregular : wire.factory.transport.IsRegular := Line.isRegular_transport hw
  have hbuilt := built_of_target ht wire { s with dryRun := false }
  have hopens : opens (wire.factory.transport.open
      (Line.fresh target s.timeout false)).result = true := by
    rw [Line.opens_fresh, hreaches]
  have hwritten : (wire.factory.transport.write bytes (wire.factory.transport.open
      (Line.fresh target s.timeout false)).state).result = .error f :=
    (Line.written_fresh hreaches s.timeout bytes).trans (by rw [h]; rfl)
  obtain ⟨hresult, -⟩ := writeAndClose_result wire.factory.transport bytes
    (wire.factory.transport.open (Line.fresh target s.timeout false)).state
    fun g hg => hregular.close_ends.fault_of_error hg
  obtain ⟨d, hd⟩ := send_delivers_of_target hb hw ht { s with dryRun := false }
  rw [hd]
  simp only [send_of_link hb hbuilt, deliver_of_open bytes hopens, hresult] at hd
  rw [← eq_of_reported hd, hwritten]
  simp [writeTurn, show f.isInterrupt = false from hw.sendall f h]

/-- That a live send to a target tells the first fault that it met, as far as that has a wording: of
the call that connects, if it raised one, and of the call that sends the document, if the target was
reached and that raised one. -/
structure TellsFirst (wire : Wire) (target : Target) (r : Except Fault Delivery) : Prop where
  connect : ∀ f, wire.callFault target = some f → f.message ≠ [] →
    ∃ d, r = .ok d ∧ d.outcome = .connectionRefused ∧ d.detail = some f.message
  sendall : wire.reaches target = true → ∀ f, wire.sendall = some f → f.message ≠ [] →
    ∃ d, r = .ok d ∧ d.outcome = .writeFailed ∧ d.detail = some f.message

/-- **When the first fault is the one that is told.** To any endpoint that leads to a link, over any
wire that does not interrupt it, a live send tells the first fault that it met, unless a radio
socket could not be connected and closing it raises another fault that is told in other words. -/
theorem tells_first_fault_iff (hb : payload.encode = .ok bytes) (hw : wire.IsUninterrupted)
    {s : Session} {link : Link Line}
    (hlink : Line.toEndpoint? endpoint s.timeout false = .ok link) :
    let live := send wire.factory endpoint payload { s with dryRun := false }
    let target := link.carrier.target
    TellsFirst wire target live.result ↔
      ∀ f g, wire.Supplants target f g → f.message ≠ [] → target.refusal g = f.message := by
  intro live target
  have ht : Line.target? endpoint = .ok target := Line.target?_of_toEndpoint? hlink
  constructor
  · intro h f g hsupplants hf
    obtain ⟨hfault, hcall⟩ := hsupplants.connectFault_eq
    obtain ⟨d, hd, -, hdetail⟩ := h.connect f hcall hf
    have hresult : live.result = _ := result_of_connectFault hb hw ht s hfault
    obtain rfl := Except.ok.inj (hresult.symm.trans hd)
    exact Option.some.inj hdetail
  · intro h
    constructor
    · intro f hcall hf
      rcases Wire.connectFault_of_callFault hcall with hfault | ⟨g, hsupplants, hfault⟩
      · refine ⟨_, result_of_connectFault hb hw ht s hfault, rfl, ?_⟩
        exact congrArg some (target.refusal_of_message hf)
      · refine ⟨_, result_of_connectFault hb hw ht s hfault, rfl, ?_⟩
        exact congrArg some (h f g hsupplants hf)
    · intro hreaches f hsendall hf
      refine ⟨_, result_of_sendall hb hw ht s hreaches hsendall, rfl, ?_⟩
      exact congrArg some (Fault.detail_of_message hf)

/-- A network printer that hangs up on the document, after which neither the shutdown nor the
closing get through, is told by the first of the three. -/
theorem tells_first_fault_of_reset :
    let wire : Wire := {
      sendall := some ⟨.connectionReset, "reset"⟩, shutdown := some ⟨.value, "odd"⟩
      close := some ⟨.runtime, "stuck"⟩ }
    let endpoint : Endpoint := ⟨.kind .network, .text "10.0.0.5", .null⟩
    let s : Session := { timeout := .int 5, dryRun := false }
    (Payload.text "^XA").encode = .ok [0x5E, 0x58, 0x41] ∧ wire.IsUninterrupted ∧
      Line.toEndpoint? endpoint s.timeout false = .ok {
        carrier := { target := .network "10.0.0.5" ⟨9100, by decide, by decide⟩ }
        timeout := .int 5
        dryRun := false } ∧
      ∃ d, (send wire.factory endpoint (.text "^XA") s).result = .ok d ∧
        d.outcome = .writeFailed ∧ d.detail = some "reset" := by
  intro wire endpoint s
  have hb : (Payload.text "^XA").encode = .ok [0x5E, 0x58, 0x41] := by rfl
  have hw : wire.IsUninterrupted := by
    constructor <;> simp [wire, Fault.IsOrdinary, Fault.isInterrupt]
  have hlink : Line.toEndpoint? endpoint s.timeout false = .ok {
      carrier := { target := .network "10.0.0.5" ⟨9100, by decide, by decide⟩ }
      timeout := .int 5
      dryRun := false } := by rfl
  have htells := (tells_first_fault_iff hb hw hlink).2 fun _ _ h => absurd h.radio (by decide)
  exact ⟨hb, hw, hlink, htells.sendall (by rfl) _ rfl (by decide)⟩

/-- **A radio socket that is refused and then cannot be closed is told by the second fault.** -/
theorem tells_second_fault :
    let wire : Wire := {
      connect := some ⟨.connectionRefused, "refused"⟩, close := some ⟨.os, "stuck"⟩ }
    let endpoint : Endpoint := ⟨.kind .bluetooth, .text "AC:3F:A4:12:34:56", .null⟩
    let live := send wire.factory endpoint (.text "^XA") { timeout := .int 5, dryRun := false }
    let target : Target := .radio "AC:3F:A4:12:34:56" standardChannel
    (Payload.text "^XA").encode = .ok [0x5E, 0x58, 0x41] ∧ wire.IsUninterrupted ∧
      Line.target? endpoint = .ok target ∧ wire.callFault target = wire.connect ∧
      live.result = .ok (undelivered .connectionRefused 3 "stuck") ∧
      ¬ TellsFirst wire target live.result := by
  intro wire endpoint live target
  have hresult : live.result = .ok (undelivered .connectionRefused 3 "stuck") := by rfl
  refine ⟨by rfl, ?_, by rfl, by rfl, hresult, fun h => ?_⟩
  · constructor <;> simp [wire, Fault.IsOrdinary, Fault.isInterrupt]
  · obtain ⟨d, hd, -, hdetail⟩ := h.connect ⟨.connectionRefused, "refused"⟩ rfl (by decide)
    obtain rfl := Except.ok.inj (hresult.symm.trans hd)
    exact absurd hdetail (by decide)

end Session

end LabelPress
