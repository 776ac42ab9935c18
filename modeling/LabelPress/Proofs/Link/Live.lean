import LabelPress.Proofs.Link.Build

/-!
# Live links over a wire

What a link that is not dry makes of the wire, step by step: which calls it makes and about which
socket, what it ends with, and what it leaves behind. Nothing is supposed of the faults that the
wire raises, interrupts included. Connecting is the one step that goes different ways, and the fault
that ends it (`Wire.connectFault`) tells which: a line that is connected holds the socket it was
handed out last (`Line.connect_of_reached`), and one that is not holds none
(`Line.connect_of_fault`).
-/

namespace LabelPress

/-! ## What a wire does -/

namespace Wire

/-- The fault that ends the connecting of a line, if there is one. A radio socket that the operating
system cannot connect is closed again, and a fault in that takes the place of the first. -/
def connectFault (wire : Wire) : Target → Option Fault
  | .network .. => wire.connect
  | .radio .. =>
    match wire.bluetooth, wire.socket, wire.connect with
    | false, _, _ => some ⟨.os, "Bluetooth sockets are not supported on this platform"⟩
    | true, some f, _ => some f
    | true, none, some f => if f.isOs then some (wire.close.getD f) else some f
    | true, none, none => none

/-- The calls of connecting a line. A radio socket is closed again only where the operating system
could not connect it. -/
def connectCalls (wire : Wire) (target : Target) (timeout : Value) (socket : SocketId) :
    List Exchange :=
  match target with
  | .network host port => [⟨.createConnection host port.number timeout, socket, wire.connect⟩]
  | .radio device channel =>
    match wire.bluetooth, wire.socket with
    | false, _ => []
    | true, some f => [⟨.socket, socket, f⟩]
    | true, none =>
      [⟨.socket, socket, none⟩, ⟨.setTimeout timeout, socket, none⟩,
        ⟨.connect device channel, socket, wire.connect⟩] ++
        if wire.connect.any Fault.isOs then [⟨.close, socket, wire.close⟩] else []

/-- The calls of letting go of a socket. That of a network connection is closed unless shutting it
down raises a fault that is none of the operating system's. -/
def disconnectCalls (wire : Wire) (target : Target) (socket : SocketId) : List Exchange :=
  match target with
  | .network .. =>
    ⟨.shutdown, socket, wire.shutdown⟩ ::
      if wire.shutdown.all Fault.isOs then [⟨.close, socket, wire.close⟩] else []
  | .radio .. => [⟨.close, socket, wire.close⟩]

end Wire

/-! ## Lines -/

namespace Line

variable (wire : Wire) (line : Line)

@[simp] theorem exchange_apply (call : WireCall) (socket : SocketId) (fault : Option Fault) :
    exchange call socket fault line =
      ⟨fault.elim (.ok ()) .error, line, [.call ⟨call, socket, fault⟩]⟩ := by
  cases fault <;> rfl

/-- A call that hands out a socket hands out the next one. -/
theorem issue_apply (call : WireCall) (fault : Option Fault) :
    issue call fault line =
      match fault with
      | none => ⟨.ok line.issued, { line with issued := line.issued + 1 },
          [.call ⟨call, line.issued, none⟩]⟩
      | some f => ⟨.error f, line, [.call ⟨call, line.issued, some f⟩]⟩ := by
  cases fault <;> rfl

/-- **A line that cannot be connected** ends with the fault that says why. -/
theorem connect_of_fault (timeout : Value) {f : Fault}
    (h : wire.connectFault line.target = some f) :
    let connected := connect wire timeout line
    connected.result = .error f ∧
      Event.calls connected.trace = wire.connectCalls line.target timeout line.issued := by
  intro connected
  cases ht : line.target with
  | network host port =>
    have hc : wire.connect = some f := by simpa [Wire.connectFault, ht] using h
    simp [connected, connect, issue_apply, Action.bind_apply, ht, hc, Wire.connectCalls]
  | radio device channel =>
    simp only [Wire.connectFault, ht] at h
    split at h
    next hb =>
      obtain rfl := Option.some.inj h
      simp [connected, connect, Action.bind_apply, ht, hb, Wire.connectCalls]
    next hb hs =>
      obtain rfl := Option.some.inj h
      simp [connected, connect, issue_apply, Action.bind_apply, ht, hb, hs, Wire.connectCalls]
    next g hb hs hc =>
      split at h
      next hg =>
        -- The socket is closed again, and a fault in that is the one that is raised.
        obtain rfl := Option.some.inj h
        cases hcl : wire.close <;>
          simp [connected, connect, issue_apply, Action.bind_apply, ht, hb, hs, hc, hg, hcl,
            Wire.connectCalls]
      next hg =>
        obtain rfl := Option.some.inj h
        simp [connected, connect, issue_apply, Action.bind_apply, ht, hb, hs, hc, hg,
          Wire.connectCalls]
    next => cases h

/-- **A line that is connected** holds the socket that it was handed out. -/
theorem connect_of_reached (timeout : Value) (h : wire.connectFault line.target = none) :
    let connected := connect wire timeout line
    connected.result = .ok () ∧
      connected.state = { line with socket := some line.issued, issued := line.issued + 1 } ∧
      Event.calls connected.trace = wire.connectCalls line.target timeout line.issued := by
  intro connected
  cases ht : line.target with
  | network host port =>
    have hc : wire.connect = none := by simpa [Wire.connectFault, ht] using h
    simp [connected, connect, issue_apply, Action.bind_apply, ht, hc, Wire.connectCalls]
  | radio device channel =>
    simp only [Wire.connectFault, ht] at h
    split at h
    next => cases h
    next => cases h
    next => split at h <;> cases h
    next hb hs hc =>
      simp [connected, connect, issue_apply, Action.bind_apply, ht, hb, hs, hc,
        Wire.connectCalls]

/-- A line that holds a socket sends everything over it, in one call. -/
theorem transmit_of_socket (bytes : Bytes) {socket : SocketId}
    (h : line.socket = some socket) :
    transmit wire bytes line =
      ⟨wire.sendall.elim (.ok (.int bytes.length)) .error, line,
        [.call ⟨.sendAll bytes, socket, wire.sendall⟩]⟩ := by
  cases hs : wire.sendall <;> simp [transmit, Action.bind_apply, h, hs]

/-- Whatever hanging up raises, its calls are these. -/
theorem calls_disconnect {socket : SocketId} (h : line.socket = some socket) :
    Event.calls (disconnect wire line).trace = wire.disconnectCalls line.target socket := by
  cases ht : line.target with
  | radio device channel =>
    cases hc : wire.close <;>
      simp [disconnect, Action.bind_apply, h, ht, hc, Wire.disconnectCalls]
  | network host port =>
    cases hs : wire.shutdown with
    | none =>
      cases hc : wire.close <;>
        simp [disconnect, Action.bind_apply, h, ht, hs, hc, Wire.disconnectCalls]
    | some f =>
      cases hf : f.isOs with
      | false => simp [disconnect, Action.bind_apply, h, ht, hs, hf, Wire.disconnectCalls]
      | true =>
        cases hc : wire.close <;>
          simp [disconnect, Action.bind_apply, h, ht, hs, hf, hc, Wire.disconnectCalls]

end Line

/-! ## Links -/

namespace Link

variable {κ σ : Type} {carrier : Carrier κ σ} {link : Link σ}

/-- A link is open once its carrier has connected. -/
theorem connect_of_live (hlive : link.dryRun = false)
    (h : (carrier.connect link.timeout link.carrier).result = .ok ()) :
    let connected := carrier.connect link.timeout link.carrier
    connect carrier link =
      ⟨.ok (.bool true), { link with carrier := connected.state, isOpen := true },
        connected.trace⟩ := by
  intro connected
  simp [connect, onCarrier, Action.bind_apply, Action.zoom_apply, hlive, h, connected]

/-- A link whose carrier could not connect is not open. A fault of the operating system is noted in
the link, and any other is passed on. -/
theorem connect_of_live_fault (hlive : link.dryRun = false) {f : Fault}
    (h : (carrier.connect link.timeout link.carrier).result = .error f) :
    let connected := carrier.connect link.timeout link.carrier
    let opened := connect carrier link
    opened.result = (if f.isOs then .ok (.bool false) else .error f) ∧
      opened.state = { link with
        carrier := connected.state
        lastError := if f.isOs then some f.message else link.lastError } ∧
      Event.calls opened.trace = Event.calls connected.trace := by
  intro connected opened
  cases hf : f.isOs <;>
    simp [opened, connect, onCarrier, Action.bind_apply, Action.zoom_apply, hlive, h, hf, connected]

/-- An open link writes what its carrier transmits. -/
theorem write_of_live (bytes : Bytes) (hopen : link.isOpen = true) (hlive : link.dryRun = false) :
    let transmitted := carrier.transmit bytes link.carrier
    write carrier bytes link =
      ⟨transmitted.result, { link with carrier := transmitted.state }, transmitted.trace⟩ := by
  intro transmitted
  have hwrite : write carrier bytes link = onCarrier (carrier.transmit bytes) link := by
    simp [write, Action.bind_apply, hopen, hlive]
  exact hwrite.trans (Action.zoom_apply ..)

/-- An open link is closed before its carrier disconnects, whatever comes of that. -/
theorem close_of_live (hopen : link.isOpen = true) (hlive : link.dryRun = false) :
    let disconnected := carrier.disconnect link.carrier
    close carrier link =
      ⟨disconnected.result, { link with isOpen := false, carrier := disconnected.state },
        disconnected.trace⟩ := by
  intro disconnected
  have hclose : close carrier link =
      onCarrier carrier.disconnect { link with isOpen := false } := by
    simp [close, Action.bind_apply, hopen, hlive]
  exact hclose.trans (Action.zoom_apply ..)

end Link

/-! ## The steps of a live send -/

namespace Line

variable (wire : Wire) (target : Target) (timeout : Value)

/-- A live link that has been opened: it holds the one socket that it was handed. -/
def reached : Link Line :=
  { fresh target timeout false with
    carrier := { target, socket := some 0, issued := 1 }, isOpen := true }

/-- A live link to a target that is not reached does not open. -/
theorem open_of_fault {f : Fault} (h : wire.connectFault target = some f) :
    let opened := wire.factory.transport.open (fresh target timeout false)
    opened.result = (if f.isOs then .ok (.bool false) else .error f) ∧
      (f.isOs = true → (wire.factory.transport.view opened.state).lastError = some f.message) ∧
      Event.calls opened.trace = wire.connectCalls target timeout 0 := by
  intro opened
  obtain ⟨hline, hlineCalls⟩ := connect_of_fault wire { target } timeout h
  obtain ⟨hresult, hstate, hcalls⟩ :=
    @Link.connect_of_live_fault _ _ (carrier wire) (fresh target timeout false) rfl f hline
  refine ⟨hresult, fun hos => ?_, hcalls.trans hlineCalls⟩
  calc (wire.factory.transport.view opened.state).lastError
      = opened.state.lastError := rfl
    _ = some f.message := by rw [show opened.state = _ from hstate, if_pos hos]

/-- A live link to a target that is reached opens. -/
theorem open_of_reached (h : wire.connectFault target = none) :
    let opened := wire.factory.transport.open (fresh target timeout false)
    opened.result = .ok (.bool true) ∧ opened.state = reached target timeout ∧
      Event.calls opened.trace = wire.connectCalls target timeout 0 := by
  intro opened
  obtain ⟨hline, hstate, hcalls⟩ := connect_of_reached wire { target } timeout h
  have hopened : opened = _ :=
    @Link.connect_of_live _ _ (carrier wire) (fresh target timeout false) rfl hline
  rw [hopened]
  refine ⟨rfl, ?_, hcalls⟩
  calc { fresh target timeout false with
          carrier := (connect wire timeout { target }).state, isOpen := true }
      = reached target timeout := by rw [hstate]; rfl

/-- It sends everything over its socket, -/
theorem write_reached (bytes : Bytes) :
    wire.factory.transport.write bytes (reached target timeout) =
      ⟨wire.sendall.elim (.ok (.int bytes.length)) .error, reached target timeout,
        [.call ⟨.sendAll bytes, 0, wire.sendall⟩]⟩ := by
  have hwrite := @Link.write_of_live _ _ (carrier wire) (reached target timeout) bytes rfl rfl
  have htransmit := transmit_of_socket wire (reached target timeout).carrier bytes rfl
  exact hwrite.trans (by rw [show (carrier wire).transmit = transmit wire from rfl, htransmit])

/-- and lets go of the same. -/
theorem calls_close_reached :
    Event.calls (wire.factory.transport.close (reached target timeout)).trace =
      wire.disconnectCalls target 0 := by
  have hclose := @Link.close_of_live _ _ (carrier wire) (reached target timeout) rfl rfl
  rw [show wire.factory.transport.close = Link.close (carrier wire) from rfl, hclose]
  exact calls_disconnect wire (reached target timeout).carrier rfl

end Line

end LabelPress
