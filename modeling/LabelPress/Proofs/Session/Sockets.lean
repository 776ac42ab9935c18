import LabelPress.Proofs.Session.Calls

/-!
# The sockets of a live send

A socket is handed out by the call that connects to a network host, or by the one that makes a radio
socket, and it is let go of by a call that closes it. A live send is handed one socket at most. What
becomes of it is settled by the faults of the wire, and `closes_all_iff` says which leave it open: a
fault in shutting down a network connection, or in connecting a radio socket, that does not come from
the operating system. An interrupt is such a fault.
-/

namespace LabelPress

namespace Exchange

/-- The socket that a call hands out, if it is one that does and raises nothing. -/
def handedOut? (e : Exchange) : Option SocketId :=
  match e.call, e.fault with
  | .createConnection .., none | .socket, none => some e.socket
  | _, _ => none

/-- The socket that a call closes, also where closing it raises a fault. -/
def closed? (e : Exchange) : Option SocketId :=
  match e.call with
  | .close => some e.socket
  | _ => none

/-- The sockets that are handed out in a course of calls. -/
def handedOut (calls : List Exchange) : List SocketId := calls.filterMap handedOut?

/-- The sockets that are closed in a course of calls. -/
def closed (calls : List Exchange) : List SocketId := calls.filterMap closed?

/-- Whether every socket that is handed out in a course of calls is closed in it. -/
def ClosesAll (calls : List Exchange) : Prop := ∀ k ∈ handedOut calls, k ∈ closed calls

instance : DecidablePred ClosesAll := fun calls =>
  inferInstanceAs (Decidable (∀ k ∈ handedOut calls, k ∈ closed calls))

@[simp] theorem handedOut_nil : handedOut [] = [] := rfl

theorem handedOut_cons (e : Exchange) (calls : List Exchange) :
    handedOut (e :: calls) = e.handedOut?.toList ++ handedOut calls := by
  cases h : e.handedOut? <;> simp [handedOut, h]

@[simp] theorem closed_nil : closed [] = [] := rfl

theorem closed_cons (e : Exchange) (calls : List Exchange) :
    closed (e :: calls) = e.closed?.toList ++ closed calls := by
  cases h : e.closed? <;> simp [closed, h]

end Exchange

namespace Wire

open Exchange

variable (wire : Wire)

/-- Whether a socket is handed out on the way to a target. -/
def issues : Target → Bool
  | .network .. => wire.connect.isNone
  | .radio .. => wire.bluetooth && wire.socket.isNone

/-- Whether the one call that can get between a socket and its closing raises a fault of the
operating system at most: that of shutting a network connection down, or of connecting a radio
socket. -/
def releases : Target → Bool
  | .network .. => wire.shutdown.all Fault.isOs
  | .radio .. => wire.connect.all Fault.isOs

variable (timeout : Value) (bytes : Bytes)

/-- A live send is handed one socket at most, and closes it, once, unless something gets in
between. -/
theorem sockets_liveCalls (target : Target) :
    handedOut (wire.liveCalls timeout bytes target) = (if wire.issues target then [0] else []) ∧
      closed (wire.liveCalls timeout bytes target) =
        if wire.issues target && wire.releases target then [0] else [] := by
  cases target with
  | network host port =>
    cases hc : wire.connect with
    | some f =>
      simp [handedOut_cons, handedOut?, closed_cons, closed?, liveCalls, connectCalls, reaches,
        issues, hc]
    | none =>
      cases hs : wire.shutdown.all Fault.isOs <;>
        simp [handedOut_cons, handedOut?, closed_cons, closed?, liveCalls, connectCalls,
          disconnectCalls, reaches, issues, releases, hc, hs]
  | radio device channel =>
    cases hb : wire.bluetooth with
    | false => simp [liveCalls, connectCalls, reaches, issues, hb]
    | true =>
      cases hk : wire.socket with
      | some f =>
        simp [handedOut_cons, handedOut?, closed_cons, closed?, liveCalls, connectCalls, reaches,
          issues, hb, hk]
      | none =>
        cases hc : wire.connect with
        | none =>
          simp [handedOut_cons, handedOut?, closed_cons, closed?, liveCalls, connectCalls,
            disconnectCalls, reaches, issues, releases, hb, hk, hc]
        | some f =>
          -- The socket has not become the line's yet, and connecting has to see to it.
          cases hf : f.isOs <;>
            simp [handedOut_cons, handedOut?, closed_cons, closed?, liveCalls, connectCalls,
              reaches, issues, releases, hb, hk, hc, hf]

/-- So every socket is closed if there is none, or if nothing gets in between. -/
theorem closesAll_liveCalls_iff (target : Target) :
    ClosesAll (wire.liveCalls timeout bytes target) ↔
      (wire.issues target = true → wire.releases target = true) := by
  obtain ⟨hout, hclosed⟩ := wire.sockets_liveCalls timeout bytes target
  unfold ClosesAll
  rw [hout, hclosed]
  cases hi : wire.issues target with
  | false => simp
  | true => cases hr : wire.releases target <;> simp

end Wire

namespace Session

open Exchange

variable {endpoint : Endpoint} {payload : Payload} {bytes : Bytes}

end Session

end LabelPress
