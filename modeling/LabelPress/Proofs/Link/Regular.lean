import LabelPress.Link.Rehearsal
import LabelPress.Link.Wire
import LabelPress.Proofs.Action

/-!
# Regular links

A session can count on a link that raises nothing but ordinary faults, says yes or no to being
opened, and gives a number or nothing for the bytes it took: a regular one. Links over a wire are
regular as long as the wire is not interrupted (`isRegular_transport`), and so are links that follow
a script of regular answers.
-/

namespace LabelPress

/-- An ordinary fault is one that a handler holds up: every fault but an interrupt. -/
def Fault.IsOrdinary (f : Fault) : Prop := f.isInterrupt = false

instance : DecidablePred Fault.IsOrdinary := fun f =>
  inferInstanceAs (Decidable (f.isInterrupt = false))

/-- A count of bytes as a link may give it: a whole number, for which a truth value can stand, or
null. -/
def Value.IsCount : Value → Prop
  | .null | .bool _ | .int _ => True
  | _ => False

/-- A regular means of transport. Whatever its state, its operations raise ordinary faults or none;
opening gives a truth value, and writing a count. -/
structure Transport.IsRegular {κ σ : Type} (transport : Transport κ σ) : Prop where
  open_ends : transport.open.Ends (fun v => ∃ b, v = .bool b) Fault.IsOrdinary
  write_ends : ∀ bytes, (transport.write bytes).Ends Value.IsCount Fault.IsOrdinary
  close_ends : transport.close.Ends (fun _ => True) Fault.IsOrdinary

namespace Link

open LabelPress.Action

variable {κ σ : Type} {carrier : Carrier κ σ}

theorem connect_ends
    (h : ∀ timeout, (carrier.connect timeout).Ends (fun _ => True) Fault.IsOrdinary) :
    (connect carrier).Ends (fun v => ∃ b, v = .bool b) Fault.IsOrdinary := by
  refine .bind .get fun link _ => ?_
  split
  · exact .bind (.modify _) fun _ _ => .pure ⟨true, rfl⟩
  · refine .bind (.attempt (.zoom _ _ (h _))) fun r hr => ?_
    cases r with
    | ok _ => exact .bind (.modify _) fun _ _ => .pure ⟨true, rfl⟩
    | error f =>
      dsimp only
      split
      · exact .bind .get fun _ _ => .bind (.emit _) fun _ _ => .bind (.modify _) fun _ _ =>
          .pure ⟨false, rfl⟩
      · exact .raise hr

/-- What a link writes is what its carrier transmits; a dry one takes all of it. -/
theorem write_ends {P : Value → Prop} {bytes : Bytes} (hdry : P (.int bytes.length))
    (h : (carrier.transmit bytes).Ends P Fault.IsOrdinary) :
    (write carrier bytes).Ends P Fault.IsOrdinary := by
  refine .bind .get fun link _ => ?_
  split
  · exact .raise rfl
  · split
    · exact .bind (.modify _) fun _ _ => .pure hdry
    · exact .zoom _ _ h

theorem close_ends (h : carrier.disconnect.Ends (fun _ => True) Fault.IsOrdinary) :
    (close carrier).Ends (fun _ => True) Fault.IsOrdinary := by
  refine .bind .get fun link _ => ?_
  split
  · exact .pure trivial
  · refine .bind (.modify _) fun _ _ => ?_
    split
    · exact .pure trivial
    · exact .zoom _ _ h

end Link

/-! ## Over a wire -/

/-- Whether the faults that a wire raises are ordinary ones. -/
structure Wire.IsUninterrupted (wire : Wire) : Prop where
  connect : ∀ f ∈ wire.connect, f.IsOrdinary
  socket : ∀ f ∈ wire.socket, f.IsOrdinary
  sendall : ∀ f ∈ wire.sendall, f.IsOrdinary
  shutdown : ∀ f ∈ wire.shutdown, f.IsOrdinary
  close : ∀ f ∈ wire.close, f.IsOrdinary

namespace Line

open LabelPress.Action

variable {wire : Wire}

theorem exchange_ends (call : WireCall) (socket : SocketId) {fault : Option Fault}
    (h : ∀ f ∈ fault, f.IsOrdinary) :
    (exchange call socket fault).Ends (fun _ => True) Fault.IsOrdinary := by
  refine .bind (.emit _) fun _ _ => ?_
  cases fault with
  | none => exact .pure trivial
  | some f => exact .raise (h f rfl)

theorem issue_ends (call : WireCall) {fault : Option Fault} (h : ∀ f ∈ fault, f.IsOrdinary) :
    (issue call fault).Ends (fun _ => True) Fault.IsOrdinary :=
  .bind .get fun _ _ => .bind (exchange_ends _ _ h) fun _ _ =>
    .bind (.modify _) fun _ _ => .pure trivial

theorem connect_ends (h : wire.IsUninterrupted) (timeout : Value) :
    (connect wire timeout).Ends (fun _ => True) Fault.IsOrdinary := by
  refine .bind .get fun line _ => ?_
  split
  · exact .bind (issue_ends _ h.connect) fun _ _ => .modify _
  · split
    · exact .raise rfl
    · refine .bind (issue_ends _ h.socket) fun _ _ => ?_
      refine .bind (exchange_ends _ _ (by simp)) fun _ _ => ?_
      refine .bind (.attempt (exchange_ends _ _ h.connect)) fun r hr => ?_
      cases r with
      | ok _ => exact .modify _
      | error f =>
        dsimp only
        split
        · exact .bind (exchange_ends _ _ h.close) fun _ _ => .raise hr
        · exact .raise hr

theorem transmit_ends (h : wire.IsUninterrupted) (bytes : Bytes) :
    (transmit wire bytes).Ends (· = .int bytes.length) Fault.IsOrdinary := by
  refine .bind .get fun line _ => ?_
  split
  · exact .raise rfl
  · exact .bind (exchange_ends _ _ h.sendall) fun _ _ => .pure rfl

theorem disconnect_ends (hs : ∀ f ∈ wire.shutdown, f.IsOrdinary)
    (hc : ∀ f ∈ wire.close, f.IsOrdinary) :
    (disconnect wire).Ends (fun _ => True) Fault.IsOrdinary := by
  have hclose (socket : SocketId) : (do
      exchange .close socket wire.close
      Action.modify fun line => { line with socket := none } : WireAction Unit).Ends
        (fun _ => True) Fault.IsOrdinary :=
    .bind (exchange_ends _ _ hc) fun _ _ => .modify _
  refine .bind .get fun line _ => ?_
  split
  · exact .pure trivial
  · split
    · refine .bind (.attempt (exchange_ends _ _ hs)) fun r hr => ?_
      cases r with
      | ok _ => exact hclose _
      | error f =>
        dsimp only
        split
        · exact .bind (P := fun _ => True) (.raise hr) fun _ _ => hclose _
        · exact hclose _
    · exact hclose _

/-- **Links over an uninterrupted wire are regular.** -/
theorem isRegular_transport (h : wire.IsUninterrupted) : (carrier wire).transport.IsRegular where
  open_ends := Link.connect_ends (connect_ends h)
  write_ends bytes := Link.write_ends trivial
    ((transmit_ends h bytes).mono (fun v hv => by rw [hv]; trivial) fun _ hf => hf)
  close_ends := Link.close_ends (disconnect_ends h.shutdown h.close)

end Line

/-! ## By a script -/

namespace Script

open LabelPress.Action

theorem step_ends {σ : Type} (s : ScriptStep) {fault : Option Fault}
    (h : ∀ f ∈ fault, f.IsOrdinary) :
    (step s fault : Action (Event ScriptStep) σ Unit).Ends (fun _ => True) Fault.IsOrdinary := by
  refine .bind (.emit _) fun _ _ => ?_
  cases fault with
  | none => exact .pure trivial
  | some f => exact .raise (h f rfl)

/-- Whether a script gives and raises what regular links do. -/
structure IsRegular (script : Script) : Prop where
  openFault : ∀ f ∈ script.openFault, f.IsOrdinary
  openResult : ∀ v ∈ script.openResult, ∃ b, v = .bool b
  connectFault : ∀ f ∈ script.connectFault, f.IsOrdinary
  writeFault : ∀ f ∈ script.writeFault, f.IsOrdinary
  writeResult : ∀ v ∈ script.writeResult, v.IsCount
  closeFault : ∀ f ∈ script.closeFault, f.IsOrdinary

theorem isRegular_transport {script : Script} (h : script.IsRegular) :
    script.transport.IsRegular where
  open_ends := by
    refine .bind (step_ends _ h.openFault) fun _ _ => ?_
    cases hr : script.openResult with
    | some v => exact .pure (h.openResult v hr)
    | none => exact Link.connect_ends fun _ => step_ends _ h.connectFault
  write_ends bytes := by
    refine Link.write_ends trivial (.bind (step_ends _ h.writeFault) fun _ _ => .pure ?_)
    cases hr : script.writeResult with
    | some v => exact h.writeResult v hr
    | none => trivial
  close_ends := .bind (step_ends _ (by simp)) fun _ _ => Link.close_ends (step_ends _ h.closeFault)

end Script

end LabelPress
