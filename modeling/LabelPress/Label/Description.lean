import LabelPress.Files.Tree
import LabelPress.Json.Reader
import LabelPress.Label.Basic
import LabelPress.Schema.Basic
import LabelPress.Text.Blank
import LabelPress.Text.Case.Fold
import LabelPress.Text.Digit

/-!
# Descriptions of labels

A description is a table that says what goes on a label: a due time, and whatever else differs
from the standard label. It is checked against a schema first; then each entry is read as what it
stands for. A description may be given as a table, as a data text, or as a file that holds one;
a text that is no data text is taken for the path of such a file.
-/

namespace LabelPress

namespace Description

/-! ## The schema -/

/-- Hour and minute at the front of `H:MM` or `HH:MM`; a single line feed may follow. -/
def clockForm? (t : Text) : Option (Nat × Nat) := do
  let (hour, rest) ← match t with
    | a :: .scalar ':' :: rest => do some (← a.digit?, rest)
    | a :: b :: .scalar ':' :: rest => do some (10 * (← a.digit?) + (← b.digit?), rest)
    | _ => none
  match rest with
  | a :: b :: tail =>
    let minute := 10 * (← a.digit?) + (← b.digit?)
    if (tail = [] ∨ tail = [.scalar '\n']) ∧ hour < 24 ∧ minute < 60 then
      some (hour, minute)
    else none
  | _ => none

/-- Whether a text starts like a date with a time after it: the digits may be of any script. -/
def startsWithDate (t : Text) : Bool :=
  match t with
  | a :: b :: c :: d :: .scalar '-' :: e :: f :: .scalar '-' :: g :: h :: s :: _ =>
    [a, b, c, d, e, f, g, h].all CodePoint.isDecimal && (s = .scalar 'T' || s = .scalar ' ')
  | _ => false

/-- What a due time has to look like. -/
def duePattern : Schema.Pattern where
  source := "^([01]?[0-9]|2[0-3]):[0-5][0-9]$|^\\d\x7b4\x7d-\\d\x7b2\x7d-\\d\x7b2\x7d[T ]"
  found t := (clockForm? t).isSome || startsWithDate t

/-- The names of the flags in a description. -/
def flagNames : List Text :=
  ["walmart_plus", "alcohol", "substitution", "fragile", "heavy", "bagged"]

/-- The entries of a description, each with its rules. -/
def entryRules : List (Text × List Schema.Rule) := [
  ("tote_number", [.kinds [.integer, .null]]),
  ("tote_id_text", [.kinds [.text]]),
  ("due_time", [.kinds [.text], .pattern duePattern]),
  ("order_type", [.kinds [.text], .nonEmpty]),
  ("customer_name", [.kinds [.text]]),
  ("full_order_number", [.kinds [.text]]),
  ("tote_barcode_id", [.kinds [.text]]),
  ("temperature_band", [.kinds [.text], .nonEmpty]),
  ("flags", [.kinds [.table], .closed flagNames,
    .properties (flagNames.map fun name => (name, [.kinds [.bool]]))])]

/-- The rules of a description. -/
def rules : List Schema.Rule := [
  .kinds [.table], .closed (entryRules.map (·.1)), .required ["due_time"],
  .properties entryRules]

/-! ## Reading entries -/

/-- Why a description is refused. -/
inductive Problem where
  /-- Its text or file cannot be read. -/
  | unreadable (why : Text)
  /-- It breaks a rule of the schema. -/
  | invalid (v : Schema.Violation)
  /-- Its due time looks like a moment and is none. -/
  | badMoment (given : Text)
  /-- An entry names none of the choices there are. -/
  | noChoice (entry : Text) (choices : List Text) (given : Text)

/-- The wording of a refusal. -/
def Problem.message : Problem → Text
  | .unreadable why => "Cannot read label description: " ++ why
  | .invalid v => "Invalid label description at " ++ v.message
  | .badMoment given => "due_time is not an ISO-8601 datetime: " ++ given.quoted
  | .noChoice entry choices given =>
    entry ++ " must be one of: " ++ Text.join ", " choices ++ " (got " ++ given.quoted ++ ")"

/-- The fault that a refusal raises. -/
def Problem.fault (p : Problem) : Fault := ⟨.labelData, p.message⟩

/-- A due time: a moment if a hyphen stands in it, else a time of day. -/
def readDue (t : Text) : Except Problem Due :=
  if t.has '-' then
    match Iso.moment? t with
    | some m => .ok (.moment m)
    | none => .error (.badMoment t)
  else
    match (clockForm? t).bind fun (hour, minute) => ClockTime.of? hour minute 0 0 with
    | some time => .ok (.time time)
    | none => .error (.badMoment t)

/-- The first of some choices whose name or words a text gives, case and blanks around it
aside. -/
def choose? {α : Type} (choices : List α) (name words : α → Text) (t : Text) : Option α :=
  let wanted := t.strip.casefold
  choices.find? fun c => wanted = (name c).casefold || wanted = (words c).casefold

/-- An order type. -/
def readOrder (t : Text) : Except Problem OrderType :=
  match choose? OrderType.all OrderType.name OrderType.label t with
  | some o => .ok o
  | none => .error (.noChoice "order_type" (OrderType.all.map OrderType.label) t)

/-- A temperature band. -/
def readBand (t : Text) : Except Problem TemperatureBand :=
  match choose? TemperatureBand.all TemperatureBand.name TemperatureBand.label t with
  | some b => .ok b
  | none => .error (.noChoice "temperature_band" (TemperatureBand.all.map TemperatureBand.label) t)

/-- A tote number: a whole number in floating-point form counts as one. -/
def readToteNumber : Value → Value
  | .float x => (x.toInt?.map Value.int).getD (.float x)
  | v => v

/-- The entries of a table of flags put into a label. -/
def putFlag (label : Label) (flag : Text × Value) : Label :=
  let (name, v) := flag
  if name = Text.ofString "walmart_plus" then { label with walmartPlus := .value v }
  else if name = Text.ofString "alcohol" then { label with alcohol := .value v }
  else if name = Text.ofString "substitution" then { label with substitution := .value v }
  else if name = Text.ofString "fragile" then { label with fragile := .value v }
  else if name = Text.ofString "heavy" then { label with heavy := .value v }
  else if name = Text.ofString "bagged" then { label with bagged := .value v }
  else label

/-- The label of a table that keeps the rules. -/
def ofEntries (entries : Table) : Except Problem Label := do
  let text (name : Text) : Text := ((entries.get? name).bind Value.text?).getD []
  let entry (name : Text) (standard : Entry) : Entry :=
    ((entries.get? name).map Entry.value).getD standard
  let due ← readDue (text "due_time")
  let standard : Label := { due }
  let order ← if (entries.get? "order_type").isSome then
      Entry.order <$> readOrder (text "order_type") else pure standard.order
  let band ← if (entries.get? "temperature_band").isSome then
      Entry.band <$> readBand (text "temperature_band") else pure standard.band
  let label : Label := { standard with
    toteNumber := ((entries.get? "tote_number").map (Entry.value ∘ readToteNumber)).getD
      standard.toteNumber
    toteId := entry "tote_id_text" standard.toteId
    order
    customer := entry "customer_name" standard.customer
    orderNumber := entry "full_order_number" standard.orderNumber
    barcode := entry "tote_barcode_id" standard.barcode
    band }
  return (((entries.get? "flags").bind Value.table?).getD []).foldl putFlag label

/-- The label of a description. -/
def ofValue (v : Value) : Except Fault Label := do
  match ← Schema.check rules v with
  | some violation => .error (Problem.invalid violation).fault
  | none => (ofEntries (v.table?.getD [])).mapError Problem.fault

/-! ## Sources -/

/-- Where a description comes from. -/
inductive Source where
  /-- A data text, or the path of a file that holds one. -/
  | text (t : Text)
  /-- The path of a file that holds a data text. -/
  | path (p : Path)
  /-- A piece of data; only a table can be a description. -/
  | value (v : Value)

/-- The value of a data text. A malformed text is refused; too long a number is a fault of its
own. -/
def parse (document : Text) : Except Fault Value :=
  match Json.read document with
  | .ok v => .ok v
  | .error (.malformed c place) =>
    .error (Problem.unreadable ((Json.Problem.malformed c place).message document)).fault
  | .error (.longInt digits) => .error ⟨.value, Digits.limitMessage digits⟩

/-- The value of a file that holds a data text. A file that the operating system does not give is
refused; bytes that are no text are a fault of their own. -/
def parseFile (tree : FileTree) (path : Path) : Except Fault Value :=
  match tree.readText path with
  | .ok document => parse document
  | .error f => .error (if f.isOs then (Problem.unreadable f.message).fault else f)

/-- The value of a source. -/
def sourceValue (tree : FileTree) : Source → Except Fault Value
  | .text t =>
    match Json.read t with
    | .ok v => .ok v
    | .error (.malformed ..) => parseFile tree (.ofText t)
    | .error (.longInt digits) => .error ⟨.value, Digits.limitMessage digits⟩
  | .path p => parseFile tree p
  | .value (.table entries) => .ok (.table entries)
  | .value _ => .error ⟨.type, "Unsupported label source type"⟩

/-- The label of a source. -/
def load (tree : FileTree) (source : Source) : Except Fault Label := do
  ofValue (← sourceValue tree source)

end Description

end LabelPress
