import LabelPress.Arguments.Reader
import LabelPress.Settings

/-!
# Jobs

What a command line asks the program to do: to compile a description, to send a document, or to do
both, with what it says on settings, logs and the printer. Options before the command are for all
commands; those after it are its own.
-/

namespace LabelPress

namespace Program

open Arguments

/-- The name of the program. -/
def name : Text := "zebra-label"

/-- What a command line says on the printer. What it does not say is null. -/
structure PrinterChoices where
  kind : Option LinkKind
  address : Value
  port : Value
  timeout : Value
  dry : Bool
  deriving Repr

/-- What to do. Files are given by their paths. -/
inductive Task where
  /-- Compiles a description, into a file if one is given. -/
  | compile (label output : Value)
  /-- Sends a document. -/
  | send (zpl : Value) (printer : PrinterChoices)
  /-- Compiles a description and sends the document. -/
  | print (label : Value) (printer : PrinterChoices)
  deriving Repr

/-- What a command line asks for. -/
structure Job where
  config : Value
  logLevel : Value
  jsonLogs : Bool
  task : Task
  deriving Repr

/-! ## Options -/

/-- The options for all commands. -/
def globalRules : List Rule := [
  helpRule,
  { names := ["--config"], takes := .text },
  { names := ["--log-level"], takes := .text },
  { names := ["--json-logs"], takes := .nothing }]

/-- The options on the printer. -/
def printerRules : List Rule := [
  { names := ["--transport"], takes := .choice (LinkKind.all.map LinkKind.word) },
  { names := ["--address"], takes := .text },
  { names := ["--port"], takes := .int },
  { names := ["--timeout"], takes := .float },
  { names := ["--dry"], takes := .nothing }]

/-- What an option was given, or null. -/
def value (found : Found) (name : Text) : Value := (found.last? name).getD .null

/-- What options say on the printer. -/
def printerChoices (found : Found) : PrinterChoices where
  kind := (value found "--transport").text?.bind LinkKind.ofWord?
  address := value found "--address"
  port := value found "--port"
  timeout := value found "--timeout"
  dry := (value found "--dry").isSet

/-- A command: its word, its options, and the task that they make. -/
structure Command where
  word : Text
  rules : List Rule
  task : Found → Task

/-- The commands. -/
def commands : List Command := [
  { word := "compile"
    rules := [
      helpRule,
      { names := ["--label"], takes := .text, required := true },
      { names := ["--output"], takes := .text }]
    task := fun found => .compile (value found "--label") (value found "--output") },
  { word := "send"
    rules :=
      helpRule :: printerRules ++ [{ names := ["--zpl"], takes := .text, required := true }]
    task := fun found => .send (value found "--zpl") (printerChoices found) },
  { word := "print"
    rules :=
      helpRule :: printerRules ++ [{ names := ["--label"], takes := .text, required := true }]
    task := fun found => .print (value found "--label") (printerChoices found) }]

/-! ## Reading -/

/-- What ends a run before its task: a call for help on the program or one of its commands, or a
complaint. -/
inductive Ending where
  | help (program : Text) (rules : List Rule)
  | complaint (program why : Text)
  deriving Repr

/-- The ending of a command line that is not read to its end. -/
def ending (program : Text) (rules : List Rule) : Halt → Ending
  | .help => .help program rules
  | .problem p => .complaint program p.message

/-- The ending for a command line that the whole program refuses. -/
def refusal (p : Problem) : Ending := .complaint name p.message

/-- The task of a command with its arguments, and the words left over. -/
def readTask : List Text → Except Ending (Task × List Text)
  | [] => .error (refusal (.missing ["command"]))
  | word :: words =>
    match commands.find? (·.word = word) with
    | none => .error (refusal (.noChoice "command" word (commands.map Command.word)))
    | some command => do
      let program := name ++ " " ++ word
      let found ← (read command.rules false words).mapError (ending program command.rules)
      return (command.task found, found.leftOver)

/-- The job of a command line. -/
def Job.read (words : List Text) : Except Ending Job := do
  let found ← (Arguments.read globalRules true words).mapError (ending name globalRules)
  let (task, more) ← readTask found.command
  match found.leftOver ++ more with
  | [] => return {
      config := value found "--config"
      logLevel := value found "--log-level"
      jsonLogs := (value found "--json-logs").isSet
      task }
  | words => .error (refusal (.leftOver words))

example : (Job.read ["send", "--zpl", "a.zpl", "--p", "80"]).toOption.isSome := by decide +kernel

example : (Job.read ["send", "--dry", "a.zpl"]).toOption.isNone := by decide +kernel

end Program

end LabelPress
