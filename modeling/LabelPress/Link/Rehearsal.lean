import LabelPress.Session.Basic

/-!
# Rehearsed links

A link that follows a script in place of a wire, for trying out how a session meets what links can
do: each step raises a given fault or gives a given value, and is recorded.
-/

namespace LabelPress

/-- The script of a link: the fault that each step raises, and the values that opening and
writing give in place of their own. -/
structure Script where
  factoryFault : Option Fault := none
  openFault : Option Fault := none
  openResult : Option Value := none
  connectFault : Option Fault := none
  writeFault : Option Fault := none
  writeResult : Option Value := none
  closeFault : Option Fault := none
  deriving Repr

/-- A step of a script. -/
inductive ScriptStep where
  | create (timeout : Value) (dryRun : Bool)
  | open
  | connect
  | write (bytes : Bytes)
  | close
  | disconnect
  deriving Repr

namespace Script

/-- Records a step, and raises the fault that the script has for it. -/
def step {σ : Type} (s : ScriptStep) (fault : Option Fault) : Action (Event ScriptStep) σ Unit := do
  Action.emit (.call s)
  match fault with
  | some f => Action.raise f
  | none => return ()

theorem isQuiet_step {σ : Type} (s : ScriptStep) (fault : Option Fault) :
    IsQuiet (step s fault : Action (Event ScriptStep) σ Unit) := by
  refine .bind (.call s) fun _ => ?_
  cases fault with
  | none => exact .pure ()
  | some f => exact .raise f

/-- The carrier that follows a script. -/
def carrier (script : Script) : Carrier ScriptStep Unit where
  connect _ := step .connect script.connectFault
  transmit bytes := do
    step (.write bytes) script.writeFault
    return script.writeResult.getD (.int bytes.length)
  disconnect := step .disconnect script.closeFault
  describe _ := "fake://printer"
  kind _ := LinkKind.network.word
  isQuiet_connect _ := isQuiet_step _ _
  isQuiet_transmit _ := .bind (isQuiet_step _ _) fun _ => .pure _
  isQuiet_disconnect := isQuiet_step _ _

/-- The transport that follows a script. -/
def transport (script : Script) : Transport ScriptStep (Link Unit) :=
  { script.carrier.transport with
    «open» := do
      step .open script.openFault
      match script.openResult with
      | some v => return v
      | none => Link.connect script.carrier
    close := do
      step .close none
      Link.close script.carrier
    isQuiet_open := by
      refine .bind (isQuiet_step _ _) fun _ => ?_
      cases script.openResult with
      | some v => exact .pure v
      | none => exact Link.isQuiet_connect _
    isQuiet_close := .bind (isQuiet_step _ _) fun _ => Link.isQuiet_close _ }

/-- The factory of links that follow a script. -/
def factory (script : Script) : Factory ScriptStep (Link Unit) where
  create _ timeout dryRun := do
    step (.create timeout dryRun) script.factoryFault
    return { carrier := (), timeout, dryRun }
  transport := script.transport
  isQuiet_create _ _ _ := .bind (isQuiet_step _ _) fun _ => .pure _

end Script

end LabelPress
