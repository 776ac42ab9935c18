import LabelPress.Proofs.Link.Live
import LabelPress.Proofs.Session.Outcome
import LabelPress.Proofs.Session.Requests

/-!
# The calls of a live send

A send over a wire makes the calls that its link makes in opening, writing and closing, and no
others. Of a live send they are known whatever the wire raises (`calls_live_send`): connecting, and,
if that gets through to the target, one call that sends the whole document and those that let go of
the socket. The main statement, `calls_and_account_of_send`, is about wires that raise faults of the
operating system only, which is what unreachable printers look like. Over these it spells the calls
out, and gives the account of them that the delivery renders.
-/

namespace LabelPress

/-! ## Wires and targets -/

namespace Wire

variable (wire : Wire)

/-- Whether connecting gets through to a target. -/
def reaches : Target → Bool
  | .network .. => wire.connect.isNone
  | .radio .. => wire.bluetooth && wire.socket.isNone && wire.connect.isNone

/-- It does if no fault ends it. -/
theorem connectFault_eq_none_iff (target : Target) :
    wire.connectFault target = none ↔ wire.reaches target = true := by
  cases target with
  | network host port => simp [connectFault, reaches]
  | radio device channel =>
    unfold connectFault reaches
    cases wire.bluetooth <;> cases wire.socket <;> cases hc : wire.connect <;> simp
    split <;> simp

/-- The calls of a live send of a document to a target: those of connecting, and, if it gets through,
one that sends the document and those that let go of the socket. -/
def liveCalls (timeout : Value) (bytes : Bytes) (target : Target) : List Exchange :=
  wire.connectCalls target timeout 0 ++
    if wire.reaches target then
      ⟨.sendAll bytes, 0, wire.sendall⟩ :: wire.disconnectCalls target 0
    else []

/-- The same, spelled out for a wire that raises faults of the operating system only. -/
def sendCalls (timeout : Value) (bytes : Bytes) : Target → List Exchange
  | .network host port =>
    ⟨.createConnection host port.number timeout, 0, wire.connect⟩ ::
      if wire.connect.isSome then []
      else [⟨.sendAll bytes, 0, wire.sendall⟩, ⟨.shutdown, 0, wire.shutdown⟩,
        ⟨.close, 0, wire.close⟩]
  | .radio device channel =>
    if !wire.bluetooth then []
    else if wire.socket.isSome then [⟨.socket, 0, wire.socket⟩]
    else
      [⟨.socket, 0, none⟩, ⟨.setTimeout timeout, 0, none⟩,
        ⟨.connect device channel, 0, wire.connect⟩] ++
      (if wire.connect.isSome then [] else [⟨.sendAll bytes, 0, wire.sendall⟩]) ++
      [⟨.close, 0, wire.close⟩]

/-- The outcome of such a send. -/
def sendOutcome (bytes : Bytes) (target : Target) : Outcome :=
  if !wire.reaches target then .connectionRefused
  else if wire.sendall.isSome || bytes.isEmpty then .writeFailed
  else .sent

/-- Whether every fault that a wire raises comes from the operating system. -/
structure RaisesOs : Prop where
  connect : ∀ f ∈ wire.connect, f.isOs = true
  socket : ∀ f ∈ wire.socket, f.isOs = true
  sendall : ∀ f ∈ wire.sendall, f.isOs = true
  shutdown : ∀ f ∈ wire.shutdown, f.isOs = true
  close : ∀ f ∈ wire.close, f.isOs = true

end Wire

/-- No interrupt comes from the operating system. -/
theorem Fault.isOrdinary_of_isOs {f : Fault} (h : f.isOs = true) : f.IsOrdinary := by
  cases f with
  | mk kind message => cases kind <;> first | rfl | cases h

namespace Wire.RaisesOs

variable {wire : Wire}

theorem isUninterrupted (h : wire.RaisesOs) : wire.IsUninterrupted where
  connect f hf := Fault.isOrdinary_of_isOs (h.connect f hf)
  socket f hf := Fault.isOrdinary_of_isOs (h.socket f hf)
  sendall f hf := Fault.isOrdinary_of_isOs (h.sendall f hf)
  shutdown f hf := Fault.isOrdinary_of_isOs (h.shutdown f hf)
  close f hf := Fault.isOrdinary_of_isOs (h.close f hf)

/-- So the calls of connecting end with a closing where the target of a radio link is not reached, -/
theorem any_connect (h : wire.RaisesOs) : wire.connect.any Fault.isOs = wire.connect.isSome := by
  cases hc : wire.connect with
  | none => rfl
  | some f => simpa using h.connect f hc

/-- and those of letting go of a socket always do. -/
theorem all_shutdown (h : wire.RaisesOs) : wire.shutdown.all Fault.isOs = true := by
  cases hs : wire.shutdown with
  | none => rfl
  | some f => simpa using h.shutdown f hs

theorem liveCalls_eq (h : wire.RaisesOs) (timeout : Value) (bytes : Bytes) (target : Target) :
    wire.liveCalls timeout bytes target = wire.sendCalls timeout bytes target := by
  unfold liveCalls
  cases target with
  | network host port =>
    cases hc : wire.connect <;>
      simp [connectCalls, disconnectCalls, reaches, sendCalls, hc, h.all_shutdown]
  | radio device channel =>
    unfold connectCalls
    rw [h.any_connect]
    -- A radio socket is closed whether or not it could be connected: in connecting, or after it.
    cases hbluetooth : wire.bluetooth <;> cases hs : wire.socket <;> cases hc : wire.connect <;>
      simp [disconnectCalls, reaches, sendCalls, hbluetooth, hs, hc]

end Wire.RaisesOs

/-! ## The live send -/

namespace Line

variable {wire : Wire} {target : Target}

/-- A live link opens if connecting gets through. -/
theorem opens_fresh (timeout : Value) :
    Session.opens (wire.factory.transport.open (fresh target timeout false)).result =
      wire.reaches target := by
  cases hfault : wire.connectFault target with
  | none =>
    obtain ⟨hopen, -⟩ := open_of_reached wire target timeout hfault
    rw [hopen, (wire.connectFault_eq_none_iff target).1 hfault]
    rfl
  | some f =>
    have hreaches : wire.reaches target = false := by
      cases hr : wire.reaches target with
      | false => rfl
      | true => simp [(wire.connectFault_eq_none_iff target).2 hr] at hfault
    obtain ⟨hopen, -⟩ := open_of_fault wire target timeout hfault
    rw [hopen, hreaches]
    cases f.isOs <;> rfl

/-- An open one tells the length of the document, unless sending raises a fault. -/
theorem written_fresh (h : wire.reaches target = true) (timeout : Value) (bytes : Bytes) :
    Session.written wire.factory bytes (fresh target timeout false) =
      wire.sendall.elim (.ok (.int bytes.length)) .error := by
  obtain ⟨-, hstate, -⟩ :=
    open_of_reached wire target timeout ((wire.connectFault_eq_none_iff target).2 h)
  rw [Session.written, hstate, write_reached]

end Line

namespace Session

variable {endpoint : Endpoint} {payload : Payload} {bytes : Bytes}

/-- Where there is no link, a send does not call the wire. -/
theorem calls_of_refusal (hb : payload.encode = .ok bytes) (wire : Wire) {p : AddressProblem}
    (hp : Line.target? endpoint = .error p) (s : Session) :
    Event.calls (send wire.factory endpoint payload s).trace = [] := by
  simp [calls_send hb, built, Line.create_of_refusal hp]

/-- **The calls of a live send**, whatever the wire raises. -/
theorem calls_live_send (hb : payload.encode = .ok bytes) (wire : Wire) {target : Target}
    (ht : Line.target? endpoint = .ok target) (s : Session) :
    Event.calls (send wire.factory endpoint payload { s with dryRun := false }).trace =
      wire.liveCalls s.timeout bytes target := by
  have hcreate := Line.create_of_target ht wire s.timeout false
  have hopens : opens _ = wire.reaches target := Line.opens_fresh s.timeout
  simp only [calls_send hb, built, hcreate, Event.calls_nil, List.nil_append, calls_conversation,
    hopens]
  cases hfault : wire.connectFault target with
  | none =>
    -- The link that is written to and closed is the one that opening has left.
    have hreaches := (wire.connectFault_eq_none_iff target).1 hfault
    obtain ⟨-, hstate, hcalls⟩ := Line.open_of_reached wire target s.timeout hfault
    rw [hcalls, hstate, Line.write_reached, Line.calls_close_reached, hreaches]
    simp [Wire.liveCalls, hreaches]
  | some f =>
    have hreaches : ¬ wire.reaches target = true := by
      rw [← wire.connectFault_eq_none_iff, hfault]
      simp
    obtain ⟨-, -, hcalls⟩ := Line.open_of_fault wire target s.timeout hfault
    rw [hcalls, Wire.liveCalls, if_neg hreaches, if_neg hreaches]

/-- What a factory over a wire builds for an endpoint that leads to a target. -/
theorem built_of_target {target : Target} (ht : Line.target? endpoint = .ok target) (wire : Wire)
    (s : Session) :
    (built wire.factory endpoint s).result = .ok (Line.fresh target s.timeout s.dryRun) :=
  congrArg Run.result (Line.create_of_target ht wire s.timeout s.dryRun)

/-- A send to a target is delivered, unless the wire is interrupted. -/
theorem send_delivers_of_target (hb : payload.encode = .ok bytes) {wire : Wire}
    (hw : wire.IsUninterrupted) {target : Target} (ht : Line.target? endpoint = .ok target)
    (s : Session) :
    ∃ d, (send wire.factory endpoint payload s).result = .ok d := by
  have hregular : wire.factory.transport.IsRegular := Line.isRegular_transport hw
  have hshow : endpoint.isShowable = true := Line.isShowable_of_target?_eq_ok ht
  have hbuilt := built_of_target ht wire s
  cases hopens : opens
      (wire.factory.transport.open (Line.fresh target s.timeout s.dryRun)).result with
  | true =>
    refine (send_eq_ok_iff_of_open hb hbuilt hopens hregular).2 ⟨hshow, fun n hn => ?_⟩
    have hlen : n = bytes.length := write_over_wire hw hn
    exact isShowableCount_of_le (by omega)
  | false =>
    have hkind : endpoint.kind.kind?.isSome = true := by
      rw [Line.kind?_of_target? ht]
      rfl
    exact (send_eq_ok_iff_of_closed hb hbuilt hopens fun f hf =>
      hregular.open_ends.fault_of_error hf).2 ⟨hshow, hkind⟩

/-- The account of a live send: what its delivery tells, which the faults of the wire settle. -/
theorem account_of_live_send (hb : payload.encode = .ok bytes) {wire : Wire}
    (hw : wire.IsUninterrupted) {target : Target} (ht : Line.target? endpoint = .ok target)
    {s : Session} {d : Delivery}
    (hd : (send wire.factory endpoint payload { s with dryRun := false }).result = .ok d) :
    d.outcome = wire.sendOutcome bytes target ∧ d.total = bytes.length ∧
      (d.outcome = .sent → d.sent = .int d.total ∧ 0 < d.total ∧ d.detail = none) ∧
      (d.outcome ≠ .sent → d.sent = .int 0 ∧ ∃ t, d.detail = some t ∧ t ≠ []) := by
  have hregular : wire.factory.transport.IsRegular := Line.isRegular_transport hw
  have hbuilt := built_of_target ht wire { s with dryRun := false }
  -- What becomes of the session has no say in the account.
  obtain ⟨phase, linked, hending⟩ : ∃ phase linked,
      Ending wire.factory endpoint bytes { s with dryRun := false } d phase linked :=
    ⟨_, _, ending_of_send hb (fun _ _ _ hv => (hregular.write_ends bytes).value_of_ok hv) hd⟩
  cases hending with
  | addressInvalid hrefused _ => simp [hbuilt] at hrefused
  | @connectionRefused link detail hlink hno hdetail =>
    obtain rfl := Except.ok.inj (hbuilt.symm.trans hlink)
    have hreaches : wire.reaches target = false := by
      rw [← Line.opens_fresh s.timeout]
      exact opens_of_declines hno
    simp [undelivered, Wire.sendOutcome, hreaches, hdetail]
  | @writeFailed link detail hlink hyes hnone hdetail =>
    obtain rfl := Except.ok.inj (hbuilt.symm.trans hlink)
    rw [Line.opens_fresh] at hyes
    rw [Line.written_fresh hyes] at hnone
    -- Where sending raises no fault it tells the length of the document, and that is zero here.
    have hfailed : (wire.sendall.isSome || bytes.isEmpty) = true := by
      cases hs : wire.sendall with
      | some f => rfl
      | none =>
        have hlen : (bytes.length : Int) ≤ 0 := by simpa [hs, TakesNothing, Value.count] using hnone
        simp only [Option.isSome_none, Bool.false_or, List.isEmpty_iff_length_eq_zero]
        omega
    simp [undelivered, Wire.sendOutcome, hyes, hfailed, hdetail]
  | @sent link taken hlink hyes htaken hpos =>
    obtain rfl := Except.ok.inj (hbuilt.symm.trans hlink)
    rw [Line.opens_fresh] at hyes
    rw [Line.written_fresh hyes] at htaken
    cases hs : wire.sendall with
    | some f => simp [hs] at htaken
    | none =>
      obtain rfl : .int bytes.length = taken := by simpa [hs] using htaken
      have hlen : 0 < bytes.length := Int.natCast_pos.1 hpos
      have hne : bytes ≠ [] := List.ne_nil_of_length_pos hlen
      simp [Wire.sendOutcome, hyes, hs, hne, hlen]

/-- **The calls of a live send and their account.** To any endpoint that leads to a link, over a wire
that raises faults of the operating system only, a live send makes the calls of `Wire.sendCalls`: it
connects, and if that gets through it sends the document whole, in one call, and lets go of the
socket, which it does as well where a radio socket could not be connected. It ends with a delivery
whose outcome is `Wire.sendOutcome`, and which tells the length of the document; of one that was sent
it tells that every byte was, and there is at least one, and of one that was not it tells why. -/
theorem calls_and_account_of_send (hb : payload.encode = .ok bytes) {wire : Wire}
    (hw : wire.RaisesOs) {s : Session} {link : Link Line}
    (hlink : Line.toEndpoint? endpoint s.timeout false = .ok link) :
    let live := send wire.factory endpoint payload { s with dryRun := false }
    let target := link.carrier.target
    Event.calls live.trace = wire.sendCalls s.timeout bytes target ∧
      ∃ d, live.result = .ok d ∧ d.outcome = wire.sendOutcome bytes target ∧
        d.total = bytes.length ∧
        (d.outcome = .sent → d.sent = .int d.total ∧ 0 < d.total ∧ d.detail = none) ∧
        (d.outcome ≠ .sent → d.sent = .int 0 ∧ ∃ t, d.detail = some t ∧ t ≠ []) := by
  intro live target
  have ht : Line.target? endpoint = .ok target := Line.target?_of_toEndpoint? hlink
  obtain ⟨d, hd⟩ : ∃ d, live.result = .ok d :=
    send_delivers_of_target hb hw.isUninterrupted ht _
  have hcalls : Event.calls live.trace = _ := calls_live_send hb wire ht s
  rw [hw.liveCalls_eq] at hcalls
  exact ⟨hcalls, d, hd, account_of_live_send hb hw.isUninterrupted ht hd⟩

/-- A radio printer that hangs up on the document, and then on the closing, has been sent it in one
call, and the socket has been closed. -/
theorem calls_of_reset :
    let wire : Wire := {
      sendall := some ⟨.connectionReset, []⟩, close := some ⟨.connectionReset, []⟩ }
    let endpoint : Endpoint := ⟨.kind .bluetooth, .text "ac:3f:a4:12:34:56", .null⟩
    let s : Session := { timeout := .int 5, dryRun := false }
    let live := send wire.factory endpoint (.text "é") s
    (Payload.text "é").encode = .ok [0xC3, 0xA9] ∧ wire.RaisesOs ∧
      Line.toEndpoint? endpoint s.timeout false = .ok {
        carrier := { target := .radio "AC:3F:A4:12:34:56" (.int 1) }
        timeout := .int 5
        dryRun := false } ∧
      Event.calls live.trace = [
        ⟨.socket, 0, none⟩, ⟨.setTimeout (.int 5), 0, none⟩,
        ⟨.connect "AC:3F:A4:12:34:56" (.int 1), 0, none⟩,
        ⟨.sendAll [0xC3, 0xA9], 0, some ⟨.connectionReset, []⟩⟩,
        ⟨.close, 0, some ⟨.connectionReset, []⟩⟩] ∧
      ∃ d, live.result = .ok d ∧ d.outcome = .writeFailed ∧ d.sent = .int 0 ∧ d.total = 2 := by
  intro wire endpoint s live
  have hb : (Payload.text "é").encode = .ok [0xC3, 0xA9] := by rfl
  have hw : wire.RaisesOs := by
    constructor <;> simp [wire, Fault.isOs, FaultKind.isOs]
  have hlink : Line.toEndpoint? endpoint s.timeout false = .ok {
      carrier := { target := .radio "AC:3F:A4:12:34:56" (.int 1) }
      timeout := .int 5
      dryRun := false } := by rfl
  obtain ⟨hcalls, d, hd, houtcome, htotal, -, hnone⟩ := calls_and_account_of_send hb hw hlink
  have ho : d.outcome = .writeFailed := houtcome
  obtain ⟨hzero, -⟩ := hnone (by simp [ho])
  exact ⟨hb, hw, hlink, hcalls, d, hd, ho, hzero, htotal⟩

end Session

end LabelPress
