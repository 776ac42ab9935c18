import LabelPress.Label.Description
import LabelPress.Label.Layout
import LabelPress.Log.Line
import LabelPress.Program.Job
import LabelPress.Session.Send

/-!
# Runs

A run reads its command line and its settings, carries out the task, and ends with a status: zero
if all went well, one if a document could not be sent, two with a complaint if it was asked for
something that makes no sense. What a run does to the world is its trace of effects and the files
that it leaves. Faults that are nobody's mistake are passed on.
-/

namespace LabelPress

namespace Program

/-- What a run finds: the time, how the log shows the time, and the wire to printers. -/
structure Scene where
  now : Moment
  stamp : Text
  wire : Wire

/-- An effect of a run: a line printed, a text on the error stream, or a call made of the wire. -/
inductive Effect where
  | printed (line : Text)
  | noted (t : Text)
  | exchanged (e : Exchange)

namespace Effect

/-- What has been printed, in lines. -/
def output (trace : List Effect) : Text :=
  trace.flatMap fun
    | .printed line => line ++ "\n"
    | _ => []

/-- What stands on the error stream. -/
def errors (trace : List Effect) : Text :=
  trace.flatMap fun
    | .noted t => t
    | _ => []

/-- The calls made of the wire, in order. -/
def exchanges (trace : List Effect) : List Exchange :=
  trace.filterMap fun
    | .exchanged e => some e
    | _ => none

@[simp] theorem output_append (a b : List Effect) : output (a ++ b) = output a ++ output b := by
  simp [output]

@[simp] theorem errors_append (a b : List Effect) : errors (a ++ b) = errors a ++ errors b := by
  simp [errors]

@[simp] theorem exchanges_append (a b : List Effect) :
    exchanges (a ++ b) = exchanges a ++ exchanges b := by simp [exchanges]

end Effect

/-- A part of a run. -/
abbrev Doing (α : Type) := Action Effect FileTree α

/-- Prints a line. A line without an encoded form is a fault. -/
def say (line : Text) : Doing Unit := do
  let _ ← Action.ofExcept ((Utf8.encode line).mapError Fault.ofEncode)
  Action.emit (.printed line)

/-- Prints lines, one after another. -/
def sayAll : List Text → Doing Unit
  | [] => return ()
  | line :: lines => do
    say line
    sayAll lines

/-- Ends a run with a complaint. -/
def complain (program why : Text) : Doing Nat := do
  Action.emit (.noted (Utf8.escapeHalves (program ++ ": error: " ++ why ++ "\n")))
  return 2

/-- Ends a run with a complaint of a fault of a kind, and passes other faults on. -/
def refuse (kind : FaultKind) (f : Fault) : Doing Nat :=
  if f.kind = kind then complain name f.message else Action.raise f

/-- The lines that tell the options of a program or command. -/
def helpText (program : Text) (rules : List Arguments.Rule) : Text :=
  Text.join "\n" (("usage: " ++ program) :: rules.map fun r => Text.ofString "  " ++ r.title)

/-- Ends a run before its task. -/
def Ending.carryOut : Ending → Doing Nat
  | .help program rules => do
    say (helpText program rules)
    return 0
  | .complaint program why => complain program why

/-! ## Settings -/

/-- The settings of a job: the standard ones if it names no file. -/
def Job.settings (job : Job) (tree : FileTree) : Except Fault Settings :=
  match job.config with
  | .text (c :: t) => Settings.load tree (.ofText (c :: t))
  | _ => .ok {}

/-- The name of the level to log from: the one given, else that of the settings, where they are not
empty. -/
def Job.levelName (job : Job) (s : Settings) : Text :=
  match job.logLevel, s.logLevel with
  | .text (c :: t), _ => c :: t
  | _, some (c :: t) => c :: t
  | _, _ => Log.Level.info.name

/-- How a job logs. -/
def Job.logSetup (job : Job) (s : Settings) : Except Fault Log.Setup :=
  (Log.threshold (job.levelName s)).map fun threshold =>
    { threshold, asData := job.jsonLogs || s.jsonLogs.getD false }

/-- Where and how to send. -/
structure Plan where
  endpoint : Endpoint
  kind : LinkKind
  timeout : Value
  dryRun : Bool
  deriving Repr

/-- What a value is, or something else if it is null. -/
def orElse : Value → Value → Value
  | .null, standard => standard
  | v, _ => v

/-- The address of an option: that of the settings where there is no such option. -/
def addressOr (standard : Text) : Value → AddressGiven
  | .null => .text standard
  | .text t => .text t
  | _ => .leftOut

/-- The plan of what a command line says on the printer, and of the settings for the rest. -/
def PrinterChoices.plan (c : PrinterChoices) (s : Settings) : Plan :=
  let kind := c.kind.getD s.kind
  { endpoint := {
      kind := .kind kind
      address := addressOr s.address c.address
      port := orElse c.port s.port }
    kind
    timeout := orElse c.timeout (.float s.timeout)
    dryRun := c.dry || s.dryRun }

/-! ## Tasks -/

/-- The path that an option gives. -/
def readPath : Value → Except Fault Path
  | .text t => .ok (.ofText t)
  | _ => .error ⟨.type, "expected str, bytes or os.PathLike object, not list"⟩

/-- The document of the description at a path. -/
def documentOf (now : Moment) (tree : FileTree) (label : Value) : Except Fault Text := do
  let path ← readPath label
  return (← Description.load tree (.path path)).compile now

/-- Leaves a log record. -/
def log (scene : Scene) (logs : Log.Setup) (r : Log.Record) : Doing Unit :=
  Action.emit (.noted (logs.entry scene.stamp r))

/-- Writes a document to the file at a path. -/
def writeFile (path : Path) (document : Text) : Doing Unit := do
  let tree ← Action.get
  let (result, tree) := tree.writeText path document
  Action.modify fun _ => tree
  Action.ofExcept result

/-- Puts a document where it is wanted: into a file, or else on the output. -/
def publish (scene : Scene) (logs : Log.Setup) (output : Value) (document : Text) : Doing Nat := do
  match output with
  | .text (c :: t) =>
    writeFile (.ofText (c :: t)) document
    log scene logs {
      level := .info, source := "label_printer", message := "ZPL written to " ++ c :: t }
  | _ => say document
  return 0

/-- The effects of an event of a send. -/
def effects (scene : Scene) (logs : Log.Setup) : Event Exchange → List Effect
  | .asked _ => []
  | .call e => [.exchanged e]
  | .log r => [.noted (logs.entry scene.stamp r)]

/-- Sends a document in a session of its own. -/
def deliver (scene : Scene) (logs : Log.Setup) (plan : Plan) (document : Bytes) :
    Doing (Delivery × Option LinkView) := fun tree =>
  let r := Session.sendOnce plan.timeout plan.dryRun scene.wire.factory plan.endpoint
    (.bytes document)
  ⟨r.result.map fun d => (d, r.state.link), tree, r.trace.flatMap (effects scene logs)⟩

/-- Sends a document and tells of it. A dry run shows what it would have sent. -/
def transmit (scene : Scene) (logs : Log.Setup) (plan : Plan) (document : Bytes) : Doing Nat := do
  say ("Starting print via " ++ plan.kind.word ++ " to " ++ plan.endpoint.title ++ "...")
  let (delivery, link) ← deliver scene logs plan document
  if plan.dryRun then
    sayAll (((link.map LinkView.sent).getD []).map Utf8.decodeReplacing)
  say (← Action.ofExcept (delivery.summary (some plan.endpoint)))
  return if delivery.ok then 0 else 1

/-- Carries out a task. -/
def Task.carryOut (scene : Scene) (logs : Log.Setup) (s : Settings) : Task → Doing Nat
  | .compile label output => do
    match documentOf scene.now (← Action.get) label with
    | .error f => refuse .labelData f
    | .ok document => publish scene logs output document
  | .send zpl printer => do
    let path ← Action.ofExcept (readPath zpl)
    match ((← Action.get).readBytes path).mapError (FileTree.Obstacle.fault path) with
    | .error f =>
      if f.isOs then complain name ("Cannot read " ++ path.toText ++ ": " ++ f.message)
      else Action.raise f
    | .ok document => transmit scene logs (printer.plan s) document
  | .print label printer => do
    match documentOf scene.now (← Action.get) label with
    | .error f => refuse .labelData f
    | .ok document =>
      let bytes ← Action.ofExcept ((Utf8.encode document).mapError Fault.ofEncode)
      transmit scene logs (printer.plan s) bytes

/-- Carries out a job. -/
def Job.carryOut (scene : Scene) (job : Job) : Doing Nat := do
  match job.settings (← Action.get) with
  | .error f => refuse .config f
  | .ok settings =>
    let logs ← Action.ofExcept (job.logSetup settings)
    job.task.carryOut scene logs settings

/-- Runs the program on a command line, and gives its status. -/
def run (scene : Scene) (words : List Text) : Doing Nat :=
  match Job.read words with
  | .error ending => ending.carryOut
  | .ok job => job.carryOut scene

end Program

end LabelPress
