import LabelPress.Fault.Basic

/-!
# Log records

A record says how serious something is, which part of the program says it, and what it is. It may
carry the endpoint and outcome of a delivery, and a fault.
-/

namespace LabelPress

namespace Log

/-- How serious a record is. -/
inductive Level where
  | debug
  | info
  | warning
  | error
  | critical
  deriving DecidableEq, Repr

/-- The name of a level in log lines. -/
def Level.name : Level → Text
  | .debug => "DEBUG"
  | .info => "INFO"
  | .warning => "WARNING"
  | .error => "ERROR"
  | .critical => "CRITICAL"

/-- Every level. -/
def Level.all : List Level := [.debug, .info, .warning, .error, .critical]

/-- The second names that levels have. -/
def Level.aliases : List (Text × Level) := [("WARN", .warning), ("FATAL", .critical)]

/-- The level with a name, which may be its second one. -/
def Level.ofName? (name : Text) : Option Level :=
  (all.find? (·.name = name)).or ((aliases.find? (·.1 = name)).map (·.2))

/-- The rank of a level. -/
def Level.rank : Level → Nat
  | .debug => 10
  | .info => 20
  | .warning => 30
  | .error => 40
  | .critical => 50

/-- The source that every other is below. -/
def rootSource : Text := "root"

/-- The source that goes by a name: one without a name is the root. -/
def sourceNamed (name : Text) : Text := if name.isEmpty then rootSource else name

example : sourceNamed [] = rootSource ∧ sourceNamed "root.x" = Text.ofString "root.x" := by decide

/-- A record. What it carries besides its message is null where it is missing. -/
structure Record where
  level : Level
  source : Text
  message : Text
  endpoint : Value := .null
  outcome : Value := .null
  fault : Option Fault := none
  deriving Repr

end Log

end LabelPress
