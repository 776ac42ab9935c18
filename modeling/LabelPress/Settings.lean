import LabelPress.Files.Tree
import LabelPress.Json.Reader
import LabelPress.Printer.Endpoint
import LabelPress.Schema.Basic
import LabelPress.Toml.Document

/-!
# Settings

What a program run keeps to unless it is told otherwise: the printer's endpoint, how long to wait
for it, whether to send at all, and how to log. Settings are read from a file, whose name tells in
which of two forms it is written, and are checked against a schema on the way.
-/

namespace LabelPress

/-- The settings of a run. -/
structure Settings where
  kind : LinkKind := .network
  address : Text := []
  /-- The port, null where none is set. -/
  port : Value := .null
  /-- How many seconds to wait for the printer. -/
  timeout : Binary64 := .ofDecimal false 5 0
  dryRun : Bool := false
  logLevel : Option Text := none
  jsonLogs : Option Bool := none
  deriving Repr

namespace Settings

/-- The endpoint of the settings. -/
def endpoint (s : Settings) : Endpoint :=
  { kind := .kind s.kind, address := .text s.address, port := s.port }

/-! ## The schema -/

/-- The rules for the table of the printer. -/
def printerRules : List (Text × List Schema.Rule) := [
  ("transport", [.oneOf (LinkKind.all.map LinkKind.word)]),
  ("address", [.kinds [.text]]),
  ("port", [.kinds [.integer], .atLeast 1, .atMost 65535]),
  ("timeout", [.kinds [.number], .above 0]),
  ("dry_run", [.kinds [.bool]])]

/-- The rules for the table of the logs. -/
def loggingRules : List (Text × List Schema.Rule) := [
  ("level", [.kinds [.text]]),
  ("json", [.kinds [.bool]])]

/-- The rules for a table with no entries but those that have rules. -/
def closedTable (properties : List (Text × List Schema.Rule)) : List Schema.Rule :=
  [.kinds [.table], .closed (properties.map (·.1)), .properties properties]

/-- The rules of a settings file. Tables other than these two are left alone. -/
def rules : List Schema.Rule := [
  .kinds [.table],
  .properties [("printer", closedTable printerRules), ("logging", closedTable loggingRules)]]

/-! ## Reading -/

/-- Why a settings file is refused. -/
inductive Problem where
  /-- There is nothing at the path. -/
  | missing (path : Path)
  /-- The name tells of no form that there is. -/
  | unknownForm (suffix : Text)
  /-- It is not written in the form that its name tells. -/
  | malformed (path : Path) (why : Text)
  /-- It breaks a rule of the schema. -/
  | invalid (v : Schema.Violation)

/-- The wording of a refusal. -/
def Problem.message : Problem → Text
  | .missing path => "Config path does not exist: " ++ path.toText
  | .unknownForm suffix => "Unsupported config format: " ++ suffix
  | .malformed path why => "Cannot parse " ++ path.toText ++ ": " ++ why
  | .invalid v => "Invalid config at " ++ v.message

/-- The fault that a refusal raises. -/
def Problem.fault (p : Problem) : Fault := ⟨.config, p.message⟩

/-- A time limit in seconds. A whole number may be too large for one. -/
def readTimeout : Value → Except Fault Binary64
  | .int n =>
    match Binary64.ofInt? n with
    | some x => .ok x
    | none => .error ⟨.overflow, "int too large to convert to float"⟩
  | .float x => .ok x
  | _ => .ok ({} : Settings).timeout

/-- The settings of the tables of the printer and of the logs, which keep the rules. -/
def ofTables (printer logging : Table) : Except Fault Settings := do
  let standard : Settings := {}
  let timeout ← ((printer.get? "timeout").map readTimeout).getD (.ok standard.timeout)
  return {
    kind := (((printer.get? "transport").bind Value.text?).bind LinkKind.ofWord?).getD standard.kind
    address := ((printer.get? "address").bind Value.text?).getD standard.address
    port := (printer.get? "port").getD standard.port
    timeout
    dryRun := ((printer.get? "dry_run").bind Value.bool?).getD standard.dryRun
    logLevel := (logging.get? "level").bind Value.text?
    jsonLogs := (logging.get? "json").bind Value.bool? }

/-- The settings that a piece of data stands for. -/
def ofValue (v : Value) : Except Fault Settings := do
  match ← Schema.check rules v with
  | some violation => .error (Problem.invalid violation).fault
  | none =>
    let part (name : Text) : Table := ((v.get? name).bind Value.table?).getD []
    ofTables (part "printer") (part "logging")

/-- The data of a settings file in TOML. -/
def readToml (tree : FileTree) (path : Path) : Except Fault Value := do
  let bytes ← (tree.readBytes path).mapError (FileTree.Obstacle.fault path)
  let document ← (Utf8.decode bytes).mapError Fault.ofDecode
  match Toml.read document with
  | .ok table => return .table table
  | .error .malformed => .error (Problem.malformed path "<toml>").fault
  | .error (.longInt digits) => .error ⟨.value, Digits.limitMessage digits⟩

/-- The data of a settings file in JSON. -/
def readJson (tree : FileTree) (path : Path) : Except Fault Value := do
  let document ← tree.readText path
  match Json.read document with
  | .ok v => return v
  | .error (.malformed c place) =>
    .error (Problem.malformed path ((Json.Problem.malformed c place).message document)).fault
  | .error (.longInt digits) => .error ⟨.value, Digits.limitMessage digits⟩

/-- The data of a settings file. -/
def readFile (tree : FileTree) (path : Path) : Except Fault Value :=
  let suffix := path.suffix.toAsciiLower
  if suffix = Text.ofString ".toml" then readToml tree path
  else if suffix = Text.ofString ".json" then readJson tree path
  else .error (Problem.unknownForm path.suffix).fault

/-- Whether there is anything at a path. A path that can not be given to the operating system
leads to nothing; one with too long a name is a fault. -/
def isThere (tree : FileTree) (path : Path) : Except Fault Bool :=
  match tree.leadsTo path with
  | .ok () => .ok true
  | .error .nameTooLong => .error (FileTree.Obstacle.nameTooLong.fault path)
  | .error _ => .ok false

/-- The settings of a file. -/
def load (tree : FileTree) (path : Path) : Except Fault Settings := do
  if ← isThere tree path then
    ofValue (← readFile tree path)
  else .error (Problem.missing path).fault

end Settings

end LabelPress
