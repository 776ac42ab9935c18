import LabelPress.Link.Basic
import LabelPress.Printer.Endpoint

/-!
# Links over sockets

The two carriers that reach a printer: a network connection to a host and port, and a short-range
radio channel to a device. The wire below them is given: for each call it may raise a fault, each
time the call is made. What is exchanged with it tells which socket a call is about and whether
it failed, so that sockets can be followed from the call that hands them out to the one that
closes them.
-/

namespace LabelPress

/-- A wire: the fault that each call raises, if any, and whether there are radio sockets. -/
structure Wire where
  connect : Option Fault := none
  socket : Option Fault := none
  sendall : Option Fault := none
  shutdown : Option Fault := none
  close : Option Fault := none
  bluetooth : Bool := true
  deriving DecidableEq, Repr

/-- A call of the wire. -/
inductive WireCall where
  /-- A network connection to a host and port, which hands out a socket. -/
  | createConnection (host : Text) (port : Nat) (timeout : Value)
  /-- A new radio socket. -/
  | socket
  | setTimeout (timeout : Value)
  /-- A radio socket's connection to a device and channel. -/
  | connect (device : Text) (channel : Value)
  | sendAll (bytes : Bytes)
  | shutdown
  | close
  deriving Repr

/-- The sockets of a link, by the order in which they were handed out. -/
abbrev SocketId := Nat

/-- A call with the socket it is about, and the fault that it raised. A call that fails to hand out
a socket is about the socket it would have handed out. -/
structure Exchange where
  call : WireCall
  socket : SocketId
  fault : Option Fault := none
  deriving Repr

/-- Where a link leads: a network host and port, or a radio device and channel. -/
inductive Target where
  | network (host : Text) (port : Address.Port)
  | radio (device : Text) (channel : Value)
  deriving Repr

/-- The channel on which printers offer their serial port. -/
def standardChannel : Value := .int 1

/-- The state of a carrier over sockets: where it leads, the socket it holds, and how many it has
been handed out. -/
structure Line where
  target : Target
  socket : Option SocketId := none
  issued : Nat := 0
  deriving Repr

namespace Line

variable {α : Type}

/-- An action of a line over the wire. -/
abbrev WireAction (α : Type) := Action (Event Exchange) Line α

/-- A line as messages show it. -/
def describe (line : Line) : Text :=
  match line.target with
  | .network host port => "tcp://" ++ host ++ ":" ++ Text.ofNat port.number
  | .radio device channel => "bluetooth://" ++ device ++ "/" ++ channel.plain

/-- The word for a line's kind of link. -/
def kind (line : Line) : Text :=
  match line.target with
  | .network .. => LinkKind.network.word
  | .radio .. => LinkKind.bluetooth.word

/-- Makes a call about a socket, with the fault that the wire has for it. -/
def exchange (call : WireCall) (socket : SocketId) (fault : Option Fault) : WireAction Unit := do
  Action.emit (.call ⟨call, socket, fault⟩)
  match fault with
  | some f => Action.raise f
  | none => return ()

/-- Makes a call that hands out a new socket. -/
def issue (call : WireCall) (fault : Option Fault) : WireAction SocketId := do
  let line ← Action.get
  exchange call line.issued fault
  Action.modify fun line => { line with issued := line.issued + 1 }
  return line.issued

/-- Connects to the line's target. A radio socket that cannot be connected is closed again if the
operating system says so. -/
def connect (wire : Wire) (timeout : Value) : WireAction Unit := do
  let line ← Action.get
  match line.target with
  | .network host port =>
    let socket ← issue (.createConnection host port.number timeout) wire.connect
    Action.modify fun line => { line with socket := some socket }
  | .radio device channel =>
    if !wire.bluetooth then
      Action.raise ⟨.os, "Bluetooth sockets are not supported on this platform"⟩
    else
      let socket ← issue .socket wire.socket
      exchange (.setTimeout timeout) socket none
      match ← Action.attempt (exchange (.connect device channel) socket wire.connect) with
      | .ok () => Action.modify fun line => { line with socket := some socket }
      | .error f =>
        if f.isOs then exchange .close socket wire.close
        Action.raise f

/-- Sends all of some bytes, and tells how many they are. -/
def transmit (wire : Wire) (bytes : Bytes) : WireAction Value := do
  let line ← Action.get
  match line.socket with
  | none => Action.raise ⟨.transport, line.describe ++ " has no socket"⟩
  | some socket =>
    exchange (.sendAll bytes) socket wire.sendall
    return .int bytes.length

/-- Lets go of the socket that the line holds. A network connection is shut down first, and a
failure of the operating system to do so is passed over. -/
def disconnect (wire : Wire) : WireAction Unit := do
  let line ← Action.get
  match line.socket with
  | none => return ()
  | some socket =>
    match line.target with
    | .network .. =>
      match ← Action.attempt (exchange .shutdown socket wire.shutdown) with
      | .ok () => pure ()
      | .error f => if !f.isOs then Action.raise f
    | .radio .. => pure ()
    exchange .close socket wire.close
    Action.modify fun line => { line with socket := none }

theorem isQuiet_exchange (call : WireCall) (socket : SocketId) (fault : Option Fault) :
    IsQuiet (exchange call socket fault) := by
  refine .bind (.call _) fun _ => ?_
  cases fault with
  | none => exact .pure ()
  | some f => exact .raise f

theorem isQuiet_issue (call : WireCall) (fault : Option Fault) : IsQuiet (issue call fault) :=
  .bind .get fun _ => .bind (isQuiet_exchange _ _ _) fun _ => .bind (.modify _) fun _ => .pure _

theorem isQuiet_connect (wire : Wire) (timeout : Value) : IsQuiet (connect wire timeout) := by
  refine .bind .get fun line => ?_
  split
  · exact .bind (isQuiet_issue _ _) fun _ => .modify _
  · split
    · exact .raise _
    · refine .bind (isQuiet_issue _ _) fun _ => .bind (isQuiet_exchange _ _ _) fun _ => ?_
      refine .bind (.attempt (isQuiet_exchange _ _ _)) fun r => ?_
      cases r with
      | ok _ => exact .modify _
      | error f =>
        dsimp only
        split
        · exact .bind (isQuiet_exchange _ _ _) fun _ => .raise f
        · exact .raise f

theorem isQuiet_transmit (wire : Wire) (bytes : Bytes) : IsQuiet (transmit wire bytes) := by
  refine .bind .get fun line => ?_
  split
  · exact .raise _
  · exact .bind (isQuiet_exchange _ _ _) fun _ => .pure _

theorem isQuiet_disconnect (wire : Wire) : IsQuiet (disconnect wire) := by
  have hclose (socket : SocketId) : IsQuiet (do
      exchange .close socket wire.close
      Action.modify fun line => { line with socket := none }) :=
    .bind (isQuiet_exchange _ _ _) fun _ => .modify _
  refine .bind .get fun line => ?_
  split
  · exact .pure _
  · split
    · refine .bind (.attempt (isQuiet_exchange _ _ _)) fun r => ?_
      cases r with
      | ok _ => exact hclose _
      | error f =>
        dsimp only
        split
        · exact .bind (.raise f) fun _ => hclose _
        · exact hclose _
    · exact hclose _

/-- The carrier over a wire. -/
def carrier (wire : Wire) : Carrier Exchange Line where
  connect := connect wire
  transmit := transmit wire
  disconnect := disconnect wire
  describe := describe
  kind := kind
  isQuiet_connect := isQuiet_connect wire
  isQuiet_transmit := isQuiet_transmit wire
  isQuiet_disconnect := isQuiet_disconnect wire

/-- A link to a host at a port. -/
def toHost? (host : Text) (port : Value) (timeout : Value) (dryRun : Bool) :
    Except AddressProblem (Link Line) := do
  let host ← Address.readHost host
  let port ← Address.readPort port
  return { carrier := { target := .network host port }, timeout, dryRun }

/-- A link to a device on a channel. -/
def toDevice? (device : Text) (channel timeout : Value) (dryRun : Bool) :
    Except AddressProblem (Link Line) := do
  let device ← Address.readDevice device
  return { carrier := { target := .radio device channel }, timeout, dryRun }

/-- The link to an endpoint, by its kind. -/
def toEndpoint? (e : Endpoint) (timeout : Value) (dryRun : Bool) :
    Except AddressProblem (Link Line) :=
  match e.kind.kind? with
  | none => .error (.unknownKind e.kind.toValue)
  | some .network => toHost? e.address.toText e.effectivePort timeout dryRun
  | some .bluetooth =>
    match e.port with
    | .null => toDevice? e.address.toText standardChannel timeout dryRun
    | _ => .error .unusedPort

end Line

end LabelPress
