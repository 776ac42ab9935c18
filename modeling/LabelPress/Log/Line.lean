import LabelPress.Json.Writer
import LabelPress.Log.Record
import LabelPress.Text.Case.Upper

/-!
# Log lines

A run shows its log records from some level on, each as words on a line or as a data text. A line
of words leaves out what a record carries besides its message, but for a fault, which comes on a
line of its own; a surrogate half in it is escaped. A data text carries everything, in ASCII and on
one line.
-/

namespace LabelPress

namespace Log

/-- How a run logs: the rank from which records are shown, and whether they are shown as data. -/
structure Setup where
  threshold : Nat
  asData : Bool
  deriving DecidableEq, Repr

/-- The ranks by the names of levels. -/
def ranks : List (Text × Nat) := [
  ("CRITICAL", 50), ("FATAL", 50), ("ERROR", 40), ("WARN", 30), ("WARNING", 30), ("INFO", 20),
  ("DEBUG", 10), ("NOTSET", 0)]

/-- The layout of lines that is known under a name among those of the levels. -/
def basicLayout : Text := "%(levelname)s:%(name)s:%(message)s"

/-- The layouts of lines that are known, under another such name. -/
def layouts : Text :=
  "\x7b'%': (<class 'logging.PercentStyle'>, '%(levelname)s:%(name)s:%(message)s'), "
    ++ "'\x7b': (<class 'logging.StrFormatStyle'>, "
    ++ "'\x7blevelname\x7d:\x7bname\x7d:\x7bmessage\x7d'), "
    ++ "'$': (<class 'logging.StringTemplateStyle'>, "
    ++ "'$\x7blevelname\x7d:$\x7bname\x7d:$\x7bmessage\x7d')\x7d"

/-- The rank from which records are shown, by the name of a level in any case. An unknown name
stands for the level of information; two names are taken and stand for no level. -/
def threshold (name : Text) : Except Fault Nat :=
  let name := name.toUpper
  match ranks.find? (·.1 = name) with
  | some (_, rank) => .ok rank
  | none =>
    if name = Text.ofString "BASIC_FORMAT" then
      .error ⟨.value, "Unknown level: " ++ basicLayout.quoted⟩
    else if name = Text.ofString "_STYLES" then
      .error ⟨.type, "Level not an integer or a valid string: " ++ layouts⟩
    else .ok Level.info.rank

/-- Whether a record is shown. -/
def Setup.shows (s : Setup) (r : Record) : Bool := s.threshold ≤ r.level.rank

/-- A record in words, with a time stamp. -/
def Record.words (stamp : Text) (r : Record) : Text :=
  let line := Text.join " | " [stamp, r.level.name, r.source, r.message]
  match r.fault with
  | none => line
  | some f => line ++ Text.when (line.getLast? ≠ some (.scalar '\n')) "\n" ++ f.line

/-- What a record says, as a table, with a time stamp. What is missing is left out. -/
def Record.toTable (stamp : Text) (r : Record) : Table :=
  let always : Table := [("ts", .text stamp), ("level", .text r.level.name),
    ("name", .text r.source), ("msg", .text r.message)]
  let carried : Table := [("endpoint", r.endpoint), ("outcome", r.outcome),
    ("exc", (r.fault.map fun f => Value.text f.line).getD .null)]
  always ++ carried.filter fun (_, v) => !v.isNull

/-- A record as a data text, with a time stamp. -/
def Record.data (stamp : Text) (r : Record) : Text := Json.write (.table (r.toTable stamp))

/-- What a record adds to the log. -/
def Setup.entry (s : Setup) (stamp : Text) (r : Record) : Text :=
  if s.shows r then
    (if s.asData then r.data stamp else Utf8.escapeHalves (r.words stamp)) ++ "\n"
  else []

/-- The log of some records. -/
def Setup.log (s : Setup) (stamp : Text) (records : List Record) : Text :=
  records.flatMap (s.entry stamp)

end Log

end LabelPress
