import LabelPress.Proofs.Session.Sockets

/-!
# Runs of a link

A link is asked to open, write and close in any order and any number of times, each time over the
wire as it is then, and whatever came of it before. What it leaves behind is followed through the
whole run: the sockets that were connected in it and not closed (`Exchange.live`). Over wires that
raise faults of the operating system only, these are the socket of the link, if it is open, and
those that were lost on the way (`Stage.Holds`). There is one way to lose a socket: a link that is
open is asked to open once more and connects, and the new socket takes the place of the one that it
held. So one socket lives at most as long as no open link is asked to open
(`tidy_along_live_run_iff`).
-/

namespace LabelPress

/-! ## Sockets that are connected and not closed -/

namespace Exchange

/-- The socket that a call connects, if it is one that does and raises nothing. -/
def connected? (e : Exchange) : Option SocketId :=
  match e.call, e.fault with
  | .createConnection .., none | .connect .., none => some e.socket
  | _, _ => none

/-- The sockets that are connected in a course of calls. -/
def connected (calls : List Exchange) : List SocketId := calls.filterMap connected?

/-- The sockets that are connected in a course of calls and not closed in it. -/
def live (calls : List Exchange) : List SocketId :=
  (connected calls).filter fun k => k ∉ closed calls

variable {a b : List Exchange}

theorem connected_append : connected (a ++ b) = connected a ++ connected b := List.filterMap_append

theorem closed_append : closed (a ++ b) = closed a ++ closed b := List.filterMap_append

@[simp] theorem connected_nil : connected [] = [] := rfl

theorem connected_cons (e : Exchange) (calls : List Exchange) :
    connected (e :: calls) = e.connected?.toList ++ connected calls := by
  cases h : e.connected? <;> simp [connected, h]

/-- Calls that connect nothing leave what is live but for what they close. -/
theorem live_append_of_connected_nil (h : connected b = []) :
    live (a ++ b) = (live a).filter fun k => k ∉ closed b := by
  simp [live, connected_append, closed_append, h, List.filter_filter, Bool.and_comm]

/-- A new socket that calls connect and do not close is live as well. -/
theorem live_append_of_closed_nil {k : SocketId} (hk : connected b = [k]) (hb : closed b = [])
    (hnew : k ∉ closed a) : live (a ++ b) = live a ++ [k] := by
  simp [live, connected_append, closed_append, hb, hk, hnew]

end Exchange

/-! ## What connecting and letting go make of sockets -/

namespace Wire

open Exchange

/-- Connecting connects the new socket if it gets through to the target, -/
theorem connected_connectCalls (wire : Wire) (target : Target) (timeout : Value) (k : SocketId) :
    connected (wire.connectCalls target timeout k) = if wire.reaches target then [k] else [] := by
  cases target with
  | network host port =>
    cases hc : wire.connect <;> simp [connectCalls, reaches, connected_cons, connected?, hc]
  | radio device channel =>
    have hclose : connected [⟨.close, k, wire.close⟩] = [] := rfl
    cases hb : wire.bluetooth <;> cases hs : wire.socket <;> cases hc : wire.connect <;>
      simp [connectCalls, reaches, connected_cons, connected?, hb, hs, hc]
    split
    · exact hclose
    · rfl

/-- and closes a radio socket again that the operating system could not connect. -/
theorem closed_connectCalls (wire : Wire) (target : Target) (timeout : Value) (k : SocketId) :
    closed (wire.connectCalls target timeout k) =
      if wire.issues target && !wire.reaches target && wire.connect.any Fault.isOs then [k]
      else [] := by
  cases target with
  | network host port =>
    cases hc : wire.connect <;> simp [connectCalls, reaches, issues, closed_cons, closed?, hc]
  | radio device channel =>
    cases hb : wire.bluetooth <;> cases hs : wire.socket <;> cases hc : wire.connect <;>
      simp [connectCalls, reaches, issues, closed_cons, closed?, hb, hs, hc]
    split <;> rfl

/-- Over a wire that raises faults of the operating system only, that is every radio socket that was
handed out and not connected. -/
theorem RaisesOs.closed_connectCalls {wire : Wire} (h : wire.RaisesOs) (target : Target)
    (timeout : Value) (k : SocketId) :
    closed (wire.connectCalls target timeout k) =
      if wire.issues target && !wire.reaches target then [k] else [] := by
  rw [Wire.closed_connectCalls, h.any_connect]
  cases target with
  | network host port => simp [issues, reaches]
  | radio device channel =>
    cases hb : wire.bluetooth <;> cases hs : wire.socket <;> cases hc : wire.connect <;>
      simp [issues, reaches, hb, hs, hc]

/-- Letting go of a socket connects none, -/
theorem connected_disconnectCalls (wire : Wire) (target : Target) (k : SocketId) :
    connected (wire.disconnectCalls target k) = [] := by
  cases target with
  | network host port =>
    cases hs : wire.shutdown.all Fault.isOs <;>
      simp [disconnectCalls, connected_cons, connected?, hs]
  | radio device channel => rfl

/-- and closes no other. -/
theorem eq_of_mem_closed_disconnectCalls {wire : Wire} {target : Target} {k j : SocketId}
    (h : j ∈ closed (wire.disconnectCalls target k)) : j = k := by
  cases target with
  | network host port =>
    cases hs : wire.shutdown.all Fault.isOs with
    | false => simp [disconnectCalls, closed_cons, closed?, hs] at h
    | true => simpa [disconnectCalls, closed_cons, closed?, hs] using h
  | radio device channel => simpa [disconnectCalls, closed_cons, closed?] using h

/-- It is closed unless it is shut down with a fault that is none of the operating system's. -/
theorem RaisesOs.closed_disconnectCalls {wire : Wire} (h : wire.RaisesOs) (target : Target)
    (k : SocketId) : closed (wire.disconnectCalls target k) = [k] := by
  cases target <;> simp [disconnectCalls, h.all_shutdown, closed_cons, closed?]

/-- Where connecting does not get through, a fault ends it. -/
theorem exists_connectFault (wire : Wire) {target : Target} (h : wire.reaches target = false) :
    ∃ f, wire.connectFault target = some f := by
  rw [← Option.ne_none_iff_exists', Ne, wire.connectFault_eq_none_iff, h]
  exact nofun

/-- A fault in connecting comes from the operating system. -/
theorem RaisesOs.isOs_of_connectFault {wire : Wire} (h : wire.RaisesOs) {target : Target}
    {f : Fault} (hf : wire.connectFault target = some f) : f.isOs = true := by
  cases target with
  | network host port => exact h.connect f hf
  | radio device channel =>
    simp only [connectFault] at hf
    split at hf
    next =>
      cases hf
      rfl
    next hs => exact h.socket f (hs.trans hf)
    next g _ _ hc =>
      rw [if_pos (h.connect g hc)] at hf
      -- A fault in closing the socket again takes the place of the first.
      cases hcl : wire.close with
      | none =>
        obtain rfl : g = f := by simpa [hcl] using hf
        exact h.connect g hc
      | some e =>
        obtain rfl : e = f := by simpa [hcl] using hf
        exact h.close e hcl
    next => cases hf

end Wire

/-! ## The steps of a run -/

namespace Line

variable (wire : Wire) (line : Line)

/-- A line that could not be connected holds what it held before. -/
theorem state_connect_of_not_reached (timeout : Value) (h : wire.reaches line.target = false) :
    (connect wire timeout line).state =
      { line with issued := line.issued + (wire.issues line.target).toNat } := by
  obtain ⟨target, socket, issued⟩ := line
  cases target with
  | network host port =>
    obtain ⟨f, hc⟩ : ∃ f, wire.connect = some f := by
      simpa [Wire.reaches, Option.isSome_iff_exists] using h
    simp [connect, issue_apply, Action.bind_apply, Wire.issues, hc]
  | radio device channel =>
    cases hb : wire.bluetooth with
    | false => simp [connect, Action.bind_apply, Wire.issues, hb]
    | true =>
      cases hs : wire.socket with
      | some f => simp [connect, issue_apply, Action.bind_apply, Wire.issues, hb, hs]
      | none =>
        obtain ⟨f, hc⟩ : ∃ f, wire.connect = some f := by
          simpa [Wire.reaches, hb, hs, Option.isSome_iff_exists] using h
        cases hf : f.isOs <;> cases hcl : wire.close <;>
          simp [connect, issue_apply, Action.bind_apply, Wire.issues, hb, hs, hc, hf, hcl]

/-- Letting go of a socket changes nothing but which one a line holds. -/
theorem state_disconnect :
    ∃ socket, (disconnect wire line).state = { line with socket } := by
  obtain ⟨target, socket, issued⟩ := line
  cases socket with
  | none => exact ⟨none, by simp [disconnect, Action.bind_apply]⟩
  | some k =>
    cases target with
    | radio device channel =>
      cases hc : wire.close <;> simp [disconnect, Action.bind_apply, hc]
    | network host port =>
      cases hs : wire.shutdown with
      | none => cases hc : wire.close <;> simp [disconnect, Action.bind_apply, hs, hc]
      | some f =>
        cases hf : f.isOs <;> cases hc : wire.close <;>
          simp [disconnect, Action.bind_apply, hs, hf, hc]

/-- A move in the life of a link: a request over the wire as it is then, or another setting of the
dry run. -/
inductive Move where
  | ask (wire : Wire) (request : Request)
  | setDryRun (dryRun : Bool)

/-- Carries out a move. Opening tells whether the link is open, and writing how many bytes it took.
-/
def Move.carryOut : Move → Action (Event Exchange) (Link Line) Value
  | .ask wire .open => Link.connect (carrier wire)
  | .ask wire (.write bytes) => Link.write (carrier wire) bytes
  | .ask wire .close => do
    Link.close (carrier wire)
    return .null
  | .setDryRun dryRun => do
    Action.modify fun link => { link with dryRun }
    return .null

/-- A move of a live run: a request over a wire that raises faults of the operating system only, or
a setting under which the link stays live. -/
def Move.IsLive : Move → Prop
  | .ask wire _ => wire.RaisesOs
  | .setDryRun dryRun => dryRun = false

/-- Whether a move asks the link to open. -/
def Move.asksToOpen : Move → Bool
  | .ask _ .open => true
  | _ => false

theorem Move.eq_open_of_asksToOpen : ∀ m : Move, m.asksToOpen = true → ∃ wire, m = .ask wire .open
  | .ask wire .open, _ => ⟨wire, rfl⟩

/-- What a run has come to: the link, and the calls that it has made so far. -/
structure Stage where
  link : Link Line
  calls : List Exchange := []

namespace Stage

open Exchange

/-- One move on, whether or not it ends with a fault. -/
def step (s : Stage) (m : Move) : Stage :=
  let done := m.carryOut s.link
  ⟨done.state, s.calls ++ Event.calls done.trace⟩

theorem step_of_carryOut {s : Stage} {m : Move} {done : Run (Event Exchange) (Link Line) Value}
    (h : m.carryOut s.link = done) :
    (s.step m).link = done.state ∧ (s.step m).calls = s.calls ++ Event.calls done.trace := by
  simp only [step, h, and_self]

/-- A move that leaves the link alone and makes no call changes nothing. -/
theorem step_eq_self {s : Stage} {m : Move} {result : Except Fault Value}
    (h : m.carryOut s.link = ⟨result, s.link, []⟩) : s.step m = s := by
  simp [step, h]

/-- Some moves on, one after another. -/
def run (s : Stage) (moves : List Move) : Stage := moves.foldl step s

variable {s : Stage} {wire : Wire} {lost : List SocketId}

/-! ## What a run holds -/

/-- The socket of the link, if it is open. -/
def held (s : Stage) : List SocketId := if s.link.isOpen then s.link.carrier.socket.toList else []

/-- The socket that is lost by a move: a link that connects lets go of none that it held before. -/
def lostBy (s : Stage) : Move → List SocketId
  | .ask wire .open => if wire.reaches s.link.carrier.target then s.held else []
  | _ => []

/-- The sockets that are lost in some moves. -/
def lostIn (s : Stage) : List Move → List SocketId
  | [] => []
  | m :: moves => s.lostBy m ++ (s.step m).lostIn moves

/-- What holds of a stage of a live run in which some sockets were lost: the sockets that live are
these and the one that the link holds, which it does if it is open. Every socket that was connected
or closed is one of those that were handed out. -/
structure Holds (s : Stage) (lost : List SocketId) : Prop where
  dryRun_eq : s.link.dryRun = false
  socket : s.link.isOpen = true → ∃ k, s.link.carrier.socket = some k
  live_eq : live s.calls = lost ++ s.held
  nodup : (live s.calls).Nodup
  connected_lt : ∀ k ∈ connected s.calls, k < s.link.carrier.issued
  closed_lt : ∀ k ∈ closed s.calls, k < s.link.carrier.issued

theorem holds_fresh (target : Target) (timeout : Value) :
    Holds { link := fresh target timeout false } [] where
  dryRun_eq := rfl
  socket := nofun
  live_eq := rfl
  nodup := .nil
  connected_lt := nofun
  closed_lt := nofun

/-- A socket that lives was handed out. -/
theorem Holds.lt_of_mem_live (h : s.Holds lost) {k : SocketId} (hk : k ∈ live s.calls) :
    k < s.link.carrier.issued := h.connected_lt k (List.mem_filter.1 hk).1

/-- A move that neither opens nor closes the link keeps what holds, if its calls connect nothing and
close none but sockets that are new. -/
theorem Holds.of_idle (h : s.Holds lost) {t : Stage} {calls : List Exchange}
    (hdry : t.link.dryRun = false) (hopen : t.link.isOpen = s.link.isOpen)
    (hsocket : t.link.carrier.socket = s.link.carrier.socket)
    (hissued : s.link.carrier.issued ≤ t.link.carrier.issued)
    (hcalls : t.calls = s.calls ++ calls) (hconnected : connected calls = [])
    (hclosed : ∀ k ∈ closed calls, s.link.carrier.issued ≤ k ∧ k < t.link.carrier.issued) :
    t.Holds lost := by
  have hheld : t.held = s.held := by simp only [held, hopen, hsocket]
  have hlive : live t.calls = live s.calls := by
    rw [hcalls, live_append_of_connected_nil hconnected, List.filter_eq_self]
    exact fun k hk => decide_eq_true fun hmem =>
      Nat.not_lt_of_le (hclosed k hmem).1 (h.lt_of_mem_live hk)
  refine ⟨hdry, ?_, ?_, ?_, ?_, ?_⟩
  · rw [hopen, hsocket]
    exact h.socket
  · rw [hlive, hheld]
    exact h.live_eq
  · rw [hlive]
    exact h.nodup
  · rw [hcalls, connected_append, hconnected, List.append_nil]
    exact fun k hk => Nat.lt_of_lt_of_le (h.connected_lt k hk) hissued
  · rw [hcalls, closed_append, List.forall_mem_append]
    exact ⟨fun k hk => Nat.lt_of_lt_of_le (h.closed_lt k hk) hissued, fun k hk => (hclosed k hk).2⟩

/-- So does a move that changes nothing about the link, and neither connects nor closes a socket. -/
theorem Holds.of_link_eq (h : s.Holds lost) {t : Stage} {calls : List Exchange}
    (hlink : t.link = s.link) (hcalls : t.calls = s.calls ++ calls)
    (hconnected : connected calls = []) (hclosed : closed calls = []) : t.Holds lost := by
  refine h.of_idle ?_ ?_ ?_ ?_ hcalls hconnected ?_
  · rw [hlink]
    exact h.dryRun_eq
  · rw [hlink]
  · rw [hlink]
  · exact Nat.le_of_eq (congrArg (·.carrier.issued) hlink.symm)
  · rw [hclosed]
    exact List.forall_mem_nil _

/-- A live link that is asked to open and connects says so, and holds the new socket. -/
theorem step_open_of_reached (hlive : s.link.dryRun = false)
    (hreaches : wire.reaches s.link.carrier.target = true) :
    let line := s.link.carrier
    let t := s.step (.ask wire .open)
    ((Move.ask wire .open).carryOut s.link).result = .ok (.bool true) ∧
      t.link.dryRun = false ∧ t.link.isOpen = true ∧
      t.link.carrier.socket = some line.issued ∧ t.link.carrier.issued = line.issued + 1 ∧
      t.calls = s.calls ++ wire.connectCalls line.target s.link.timeout line.issued := by
  intro line t
  have hfault := (wire.connectFault_eq_none_iff line.target).2 hreaches
  obtain ⟨hresult, hstate, hcalls⟩ := connect_of_reached wire line s.link.timeout hfault
  have hopened : (Move.ask wire .open).carryOut s.link = _ :=
    @Link.connect_of_live _ _ (carrier wire) s.link hlive hresult
  obtain ⟨hlink, htrace⟩ := step_of_carryOut hopened
  have hlink : t.link = _ := hlink
  refine ⟨congrArg Run.result hopened, ?_, ?_, ?_, ?_, htrace.trans (congrArg _ hcalls)⟩
  · rw [hlink]
    exact hlive
  · rw [hlink]
  · rw [hlink]
    exact congrArg Line.socket hstate
  · rw [hlink]
    exact congrArg Line.issued hstate

/-- One that does not connect is left as it was, whatever fault there is to it, -/
theorem step_open_of_not_reached (hlive : s.link.dryRun = false)
    (hreaches : wire.reaches s.link.carrier.target = false) :
    let line := s.link.carrier
    let t := s.step (.ask wire .open)
    t.link.dryRun = false ∧ t.link.isOpen = s.link.isOpen ∧ t.link.carrier.socket = line.socket ∧
      t.link.carrier.issued = line.issued + (wire.issues line.target).toNat ∧
      t.calls = s.calls ++ wire.connectCalls line.target s.link.timeout line.issued := by
  intro line t
  obtain ⟨f, hfault⟩ := wire.exists_connectFault hreaches
  obtain ⟨hresult, hcalls⟩ := connect_of_fault wire line s.link.timeout hfault
  have hstate : (connect wire s.link.timeout line).state = _ :=
    state_connect_of_not_reached wire line s.link.timeout hreaches
  obtain ⟨-, hlink, htrace⟩ :=
    @Link.connect_of_live_fault _ _ (carrier wire) s.link hlive f hresult
  have hlink : t.link = _ := hlink
  refine ⟨?_, ?_, ?_, ?_, ?_⟩
  · rw [hlink]
    exact hlive
  · rw [hlink]
  · rw [hlink]
    exact (congrArg Line.socket hstate :)
  · rw [hlink]
    exact congrArg Line.issued hstate
  · exact congrArg _ (htrace.trans hcalls)

/-- and says so, if the fault comes from the operating system. -/
theorem carryOut_open_of_not_reached (hlive : s.link.dryRun = false) (hw : wire.RaisesOs)
    (hreaches : wire.reaches s.link.carrier.target = false) :
    ((Move.ask wire .open).carryOut s.link).result = .ok (.bool false) := by
  obtain ⟨f, hfault⟩ := wire.exists_connectFault hreaches
  obtain ⟨hresult, -⟩ := connect_of_fault wire s.link.carrier s.link.timeout hfault
  obtain ⟨hopened, -⟩ := @Link.connect_of_live_fault _ _ (carrier wire) s.link hlive f hresult
  rwa [if_pos (hw.isOs_of_connectFault hfault)] at hopened

theorem carryOut_close (wire : Wire) (link : Link Line) :
    (Move.ask wire .close).carryOut link =
      let done := Link.close (carrier wire) link
      ⟨done.result.map fun _ => .null, done.state, done.trace⟩ := by
  simp only [Move.carryOut, Action.bind_apply]
  cases Link.close (carrier wire) link with
  | mk result state trace => cases result <;> simp [Except.map]

/-- A link that is asked to close and is not open does nothing. -/
theorem carryOut_close_of_not_open (wire : Wire) {link : Link Line} (hopen : link.isOpen = false) :
    (Move.ask wire .close).carryOut link = ⟨.ok .null, link, []⟩ := by
  have hclose : Link.close (carrier wire) link = ⟨.ok (), link, []⟩ := by
    simp [Link.close, Action.bind_apply, hopen]
  rw [carryOut_close, hclose]
  rfl

/-- One that is asked to write says that it is not open, -/
theorem carryOut_write_of_not_open (wire : Wire) (bytes : Bytes) {link : Link Line}
    (hopen : link.isOpen = false) :
    (Move.ask wire (.write bytes)).carryOut link =
      ⟨.error ⟨.transport, link.carrier.describe ++ " is not open"⟩, link, []⟩ := by
  simp [Move.carryOut, Link.write, Action.bind_apply, hopen, carrier]

/-- and one that is open writes over the socket that it holds. -/
theorem carryOut_write_of_socket (wire : Wire) (bytes : Bytes) {link : Link Line}
    (hlive : link.dryRun = false) (hopen : link.isOpen = true) {k : SocketId}
    (hk : link.carrier.socket = some k) :
    (Move.ask wire (.write bytes)).carryOut link =
      ⟨wire.sendall.elim (.ok (.int bytes.length)) .error, link,
        [.call ⟨.sendAll bytes, k, wire.sendall⟩]⟩ := by
  have hwrite : (Move.ask wire (.write bytes)).carryOut link = _ :=
    @Link.write_of_live _ _ (carrier wire) link bytes hopen hlive
  have htransmit : (carrier wire).transmit bytes link.carrier = _ :=
    transmit_of_socket wire link.carrier bytes hk
  rw [hwrite, htransmit]

/-- One that is open lets go of its socket, and is closed even if that fails. -/
theorem step_close_of_open (wire : Wire) (hlive : s.link.dryRun = false)
    (hopen : s.link.isOpen = true) {k : SocketId} (hk : s.link.carrier.socket = some k) :
    let t := s.step (.ask wire .close)
    t.link.dryRun = false ∧ t.link.isOpen = false ∧
      t.link.carrier.issued = s.link.carrier.issued ∧
      t.calls = s.calls ++ wire.disconnectCalls s.link.carrier.target k := by
  intro t
  obtain ⟨socket, hstate⟩ := state_disconnect wire s.link.carrier
  have hclose : Link.close (carrier wire) s.link = _ :=
    @Link.close_of_live _ _ (carrier wire) s.link hopen hlive
  have hrun := carryOut_close wire s.link
  rw [hclose] at hrun
  obtain ⟨hlink, hcalls⟩ := step_of_carryOut hrun
  have hlink : t.link = _ := hlink
  refine ⟨?_, ?_, ?_, ?_⟩
  · rw [hlink]
    exact hlive
  · rw [hlink]
  · rw [hlink]
    exact (congrArg Line.issued hstate :)
  · exact hcalls.trans (congrArg _ (calls_disconnect wire s.link.carrier hk))

/-- Asking a link to open loses the socket that it held, if it connects. -/
theorem Holds.open (h : s.Holds lost) (hw : wire.RaisesOs) :
    (s.step (.ask wire .open)).Holds (lost ++ s.lostBy (.ask wire .open)) := by
  have hconnected :=
    wire.connected_connectCalls s.link.carrier.target s.link.timeout s.link.carrier.issued
  have hclosed :=
    hw.closed_connectCalls s.link.carrier.target s.link.timeout s.link.carrier.issued
  cases hreaches : wire.reaches s.link.carrier.target with
  | false =>
    have hlost : s.lostBy (.ask wire .open) = [] := by simp [lostBy, hreaches]
    obtain ⟨hdry, hopen, hsocket, hissued, hcalls⟩ :=
      step_open_of_not_reached h.dryRun_eq hreaches
    simp only [hreaches, Bool.false_eq_true, if_false, Bool.not_false, Bool.and_true]
      at hconnected hclosed
    rw [hlost, List.append_nil]
    refine h.of_idle hdry hopen hsocket (by omega) hcalls hconnected ?_
    rw [hissued, hclosed]
    cases wire.issues s.link.carrier.target <;> simp
  | true =>
    have hlost : s.lostBy (.ask wire .open) = s.held := by simp [lostBy, hreaches]
    obtain ⟨-, hdry, hopen, hsocket, hissued, hcalls⟩ :=
      step_open_of_reached h.dryRun_eq hreaches
    simp only [hreaches, Bool.not_true, Bool.and_false, Bool.false_eq_true, if_true, if_false]
      at hconnected hclosed
    -- The new socket was not handed out before, so it has not been closed either.
    have hnew : s.link.carrier.issued ∉ closed s.calls := fun hk =>
      Nat.lt_irrefl _ (h.closed_lt _ hk)
    have hlive := live_append_of_closed_nil hconnected hclosed hnew
    rw [← hcalls] at hlive
    have hheld : (s.step (.ask wire .open)).held = [s.link.carrier.issued] := by
      simp [held, hopen, hsocket]
    refine ⟨hdry, fun _ => ⟨_, hsocket⟩, ?_, ?_, ?_, ?_⟩
    · rw [hlive, hheld, h.live_eq, hlost]
    · rw [hlive, List.nodup_append]
      refine ⟨h.nodup, List.pairwise_singleton _ _, fun k hk j hj => ?_⟩
      rw [List.mem_singleton.1 hj]
      exact Nat.ne_of_lt (h.lt_of_mem_live hk)
    · rw [hcalls, connected_append, hconnected, hissued, List.forall_mem_append,
        List.forall_mem_singleton]
      exact ⟨fun k hk => Nat.lt_succ_of_lt (h.connected_lt k hk), Nat.lt_succ_self _⟩
    · rw [hcalls, closed_append, hclosed, List.append_nil, hissued]
      exact fun k hk => Nat.lt_succ_of_lt (h.closed_lt k hk)

/-- Asking it to write loses none, whatever comes of it, -/
theorem Holds.write (h : s.Holds lost) (wire : Wire) (bytes : Bytes) :
    (s.step (.ask wire (.write bytes))).Holds lost := by
  cases hopen : s.link.isOpen with
  | false =>
    obtain ⟨hlink, hcalls⟩ := step_of_carryOut (carryOut_write_of_not_open wire bytes hopen)
    exact h.of_link_eq hlink hcalls rfl rfl
  | true =>
    obtain ⟨k, hk⟩ := h.socket hopen
    obtain ⟨hlink, hcalls⟩ :=
      step_of_carryOut (carryOut_write_of_socket wire bytes h.dryRun_eq hopen hk)
    exact h.of_link_eq hlink hcalls rfl rfl

/-- and asking it to close lets go of the one that it holds. -/
theorem Holds.close (h : s.Holds lost) (hw : wire.RaisesOs) :
    (s.step (.ask wire .close)).Holds lost := by
  cases hopen : s.link.isOpen with
  | false =>
    obtain ⟨hlink, hcalls⟩ := step_of_carryOut (carryOut_close_of_not_open wire hopen)
    exact h.of_link_eq hlink hcalls rfl rfl
  | true =>
    obtain ⟨k, hk⟩ := h.socket hopen
    obtain ⟨hdry, hshut, hissued, hcalls⟩ := step_close_of_open wire h.dryRun_eq hopen hk
    have hconnected := wire.connected_disconnectCalls s.link.carrier.target k
    have hclosed := hw.closed_disconnectCalls s.link.carrier.target k
    have hlive : live s.calls = lost ++ [k] := by simp [h.live_eq, held, hopen, hk]
    have hnodup := h.nodup
    rw [hlive, List.nodup_append] at hnodup
    have hleft : live (s.step (.ask wire .close)).calls = lost := by
      -- No socket lives twice, so closing that of the link takes none of the lost ones away.
      have hne : ∀ j ∈ lost, decide (j ∉ [k]) = true := fun j hj =>
        decide_eq_true fun hmem => hnodup.2.2 j hj k (List.mem_singleton_self k)
          (List.mem_singleton.1 hmem)
      rw [hcalls, live_append_of_connected_nil hconnected, hlive, hclosed, List.filter_append,
        List.filter_eq_self.2 hne]
      simp
    refine ⟨hdry, fun hopened => ?_, ?_, ?_, ?_, ?_⟩
    · rw [hshut] at hopened
      cases hopened
    · rw [hleft, held, hshut]
      simp
    · rw [hleft]
      exact hnodup.1
    · rw [hcalls, connected_append, hconnected, List.append_nil, hissued]
      exact h.connected_lt
    · rw [hcalls, closed_append, hclosed, hissued, List.forall_mem_append,
        List.forall_mem_singleton]
      refine ⟨h.closed_lt, h.lt_of_mem_live ?_⟩
      rw [hlive]
      exact List.mem_append_right _ (List.mem_singleton_self k)

/-- **One live move on.** -/
theorem Holds.step {m : Move} (h : s.Holds lost) (hm : m.IsLive) :
    (s.step m).Holds (lost ++ s.lostBy m) := by
  cases m with
  | setDryRun dryRun =>
    have hset : (s.step (.setDryRun dryRun)).Holds lost :=
      h.of_idle hm rfl rfl (Nat.le_refl _) rfl rfl (List.forall_mem_nil _)
    simpa [lostBy] using hset
  | ask wire request =>
    cases request with
    | «open» => exact h.open hm
    | write bytes => simpa [lostBy] using h.write wire bytes
    | close => simpa [lostBy] using h.close hm

/-- **What a live run comes to.** The sockets that are lost in it are all that lives besides the one
that the link holds. -/
theorem Holds.run {moves : List Move} (h : s.Holds lost) (hlive : ∀ m ∈ moves, m.IsLive) :
    (s.run moves).Holds (lost ++ s.lostIn moves) := by
  induction moves generalizing s lost with
  | nil => simpa [lostIn, Stage.run] using h
  | cons m moves ih =>
    rw [List.forall_mem_cons] at hlive
    rw [lostIn, ← List.append_assoc]
    exact ih (h.step hlive.1) hlive.2

/-- There are as many sockets alive as were lost, and one more if the link is open. -/
theorem Holds.length_live (h : s.Holds lost) :
    (live s.calls).length = lost.length + s.link.isOpen.toNat := by
  rw [h.live_eq, List.length_append]
  cases hopen : s.link.isOpen with
  | false => simp [held, hopen]
  | true =>
    obtain ⟨k, hk⟩ := h.socket hopen
    simp [held, hopen, hk]

/-! ## Runs that lose no socket -/

/-- Whether something is so of every move of a run, at the stage where it is made. -/
def Along (P : Stage → Move → Prop) (s : Stage) : List Move → Prop
  | [] => True
  | m :: moves => P s m ∧ (s.step m).Along P moves

instance Along.decidable {P : Stage → Move → Prop} [∀ s m, Decidable (P s m)] (s : Stage)
    (moves : List Move) : Decidable (s.Along P moves) :=
  match moves with
  | [] => inferInstanceAs (Decidable True)
  | m :: moves =>
    have := Along.decidable (P := P) (s.step m) moves
    inferInstanceAs (Decidable (_ ∧ _))

/-- Whether a move asks an open link to open. -/
def Reopens (s : Stage) (m : Move) : Prop := m.asksToOpen = true ∧ s.link.isOpen = true

instance (s : Stage) (m : Move) : Decidable (s.Reopens m) := inferInstanceAs (Decidable (_ ∧ _))

/-- Whether a move leaves as many sockets alive as the link can hold, one if it is open and none if
it is not, and a link that has just told that it did not open is not open. -/
structure IsTidy (s : Stage) (m : Move) : Prop where
  length_live : (live (s.step m).calls).length = (s.step m).link.isOpen.toNat
  isOpen_eq_false : m.asksToOpen = true → (m.carryOut s.link).result = .ok (.bool false) →
    (s.step m).link.isOpen = false

/-- A move that opens no link that is open loses no socket. -/
theorem lostBy_of_not_reopens {m : Move} (hm : ¬ s.Reopens m) : s.lostBy m = [] := by
  unfold lostBy
  split
  next wire =>
    have hclosed : s.link.isOpen = false := by simpa [Reopens, Move.asksToOpen] using hm
    simp [held, hclosed]
  next => rfl

/-- As long as no socket has been lost, the moves that are not tidy are those that ask an open link
to open: it loses its socket, or tells that it did not open. -/
theorem Holds.isTidy_iff {m : Move} (h : s.Holds []) (hm : m.IsLive) :
    s.IsTidy m ↔ ¬ s.Reopens m := by
  have hlength := (h.step hm).length_live
  rw [List.nil_append] at hlength
  constructor
  · rintro ⟨htidy, hdeclined⟩ ⟨hasks, hopen⟩
    obtain ⟨wire, rfl⟩ := m.eq_open_of_asksToOpen hasks
    cases hreaches : wire.reaches s.link.carrier.target with
    | true =>
      obtain ⟨k, hk⟩ := h.socket hopen
      have hlost : s.lostBy (.ask wire .open) = [k] := by simp [lostBy, hreaches, held, hopen, hk]
      rw [htidy, hlost, List.length_singleton] at hlength
      omega
    | false =>
      obtain ⟨-, hkept, -⟩ := step_open_of_not_reached h.dryRun_eq hreaches
      have hresult := carryOut_open_of_not_reached h.dryRun_eq hm hreaches
      exact absurd (hkept.symm.trans (hdeclined rfl hresult)) (by simp [hopen])
  · intro hnot
    rw [lostBy_of_not_reopens hnot, List.length_nil, Nat.zero_add] at hlength
    refine ⟨hlength, fun hasks hresult => ?_⟩
    obtain ⟨wire, rfl⟩ := m.eq_open_of_asksToOpen hasks
    have hclosed : s.link.isOpen = false := by simpa [Reopens, Move.asksToOpen] using hnot
    cases hreaches : wire.reaches s.link.carrier.target with
    | true =>
      have htrue := (step_open_of_reached h.dryRun_eq hreaches).1
      cases htrue.symm.trans hresult
    | false =>
      obtain ⟨-, hkept, -⟩ := step_open_of_not_reached h.dryRun_eq hreaches
      exact hkept.trans hclosed

/-- So a whole run is tidy if it asks no open link to open, and only then. -/
theorem Holds.along_isTidy_iff {moves : List Move} (h : s.Holds [])
    (hlive : ∀ m ∈ moves, m.IsLive) :
    s.Along IsTidy moves ↔ s.Along (fun s m => ¬ s.Reopens m) moves := by
  induction moves generalizing s with
  | nil => exact Iff.rfl
  | cons m moves ih =>
    rw [List.forall_mem_cons] at hlive
    -- Behind a move that reopens nothing still no socket has been lost; behind another both fail.
    rw [Along, Along, h.isTidy_iff hlive.1]
    refine and_congr_right fun hnot => ih ?_ hlive.2
    have hstep := h.step hlive.1
    rwa [lostBy_of_not_reopens hnot] at hstep

/-- **When a live run leaves no socket behind.** Whatever a link is asked, in whatever order, over
wires that raise faults of the operating system only, the sockets that live afterwards are those
that were lost and the one that the link holds. After each move one socket lives if the link is open
and none if it is not, and a link that told that it did not open is not open, exactly if no open
link is asked to open. -/
theorem tidy_along_live_run_iff (target : Target) (timeout : Value) {moves : List Move}
    (hlive : ∀ m ∈ moves, m.IsLive) :
    let s : Stage := { link := fresh target timeout false }
    let t := s.run moves
    live t.calls = s.lostIn moves ++ t.held ∧
      (s.Along IsTidy moves ↔ s.Along (fun s m => ¬ s.Reopens m) moves) := by
  intro s t
  have hfresh : s.Holds [] := holds_fresh target timeout
  exact ⟨(hfresh.run hlive).live_eq, hfresh.along_isTidy_iff hlive⟩

/-- A radio link that fails to open, then opens, is reset in writing and in closing, and opens anew,
leaves no socket behind at any move. -/
theorem tidy_along_run_with_resets :
    let refused : Wire := { connect := some ⟨.connectionRefused, "refused"⟩ }
    let reset : Wire := {
      sendall := some ⟨.connectionReset, []⟩, close := some ⟨.connectionReset, []⟩ }
    let moves : List Move := [.ask refused .open, .ask reset .open, .ask reset (.write [0x5E]),
      .ask reset .close, .ask {} .open]
    let s : Stage := { link := fresh (.radio "AC:3F:A4:12:34:56" (.int 1)) (.int 5) false }
    let t := s.run moves
    (∀ m ∈ moves, m.IsLive) ∧ connected t.calls = [1, 2] ∧ closed t.calls = [0, 1] ∧
      live t.calls = [2] ∧ s.Along IsTidy moves := by
  intro refused reset moves s t
  have hmoves : ∀ m ∈ moves, m.IsLive := by
    simp only [moves, List.forall_mem_cons]
    refine ⟨?_, ?_, ?_, ?_, ?_, List.forall_mem_nil _⟩ <;>
      constructor <;> simp [refused, reset, Fault.isOs, FaultKind.isOs]
  obtain ⟨-, htidy⟩ := tidy_along_live_run_iff (.radio "AC:3F:A4:12:34:56" (.int 1)) (.int 5) hmoves
  exact ⟨hmoves, by decide +kernel, by decide +kernel, by decide +kernel,
    htidy.2 (by decide +kernel)⟩

/-- **A link that is opened twice leaves a socket behind**: two of them live, and closing it lets go
of the second only. And a link that is open, and cannot be opened once more, tells that it did not
open and is open. -/
theorem untidy_reopenings :
    let refused : Wire := { connect := some ⟨.connectionRefused, "refused"⟩ }
    let target : Target := .network "10.0.0.5" ⟨9100, by decide, by decide⟩
    let s : Stage := { link := fresh target (.int 5) false }
    let opened := s.step (.ask {} .open)
    let twice := opened.step (.ask {} .open)
    refused.RaisesOs ∧ live twice.calls = [0, 1] ∧ ¬ opened.IsTidy (.ask {} .open) ∧
      live (twice.step (.ask {} .close)).calls = [0] ∧
      ((Move.ask refused .open).carryOut opened.link).result = .ok (.bool false) ∧
      (opened.step (.ask refused .open)).link.isOpen = true ∧
      ¬ opened.IsTidy (.ask refused .open) := by
  intro refused target s opened twice
  have hrefused : refused.RaisesOs := by
    constructor <;> simp [refused, Fault.isOs, FaultKind.isOs]
  refine ⟨hrefused, by rfl, fun htidy => ?_, by rfl, by rfl, by rfl, fun htidy => ?_⟩
  · cases htidy.length_live
  · cases htidy.isOpen_eq_false rfl rfl

end Stage

end Line

end LabelPress
