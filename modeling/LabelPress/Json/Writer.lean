import LabelPress.Calendar.Iso
import LabelPress.Number.Shortest
import LabelPress.Text.Order
import LabelPress.Value.Basic

/-!
# Writing data texts

A value on one line, in ASCII, with the entries of every table in the order of their names. Texts
are quoted with an escape for whatever is not printable ASCII; a scalar value beyond `0xFFFF` is
written as two halves.
-/

namespace LabelPress

namespace Json

/-- The escape of a number below `0x10000`. -/
def escapeUnit (n : Nat) : Text := "\\u" ++ Text.hex 4 n

/-- A code point as it stands in a quoted text. -/
def escape (c : CodePoint) : Text :=
  if c = .scalar '"' then "\\\""
  else if c = .scalar '\\' then "\\\\"
  else if c = .scalar '\n' then "\\n"
  else if c = .scalar '\r' then "\\r"
  else if c = .scalar '\t' then "\\t"
  else if c = .scalar '\x0c' then "\\f"
  else if c = .scalar '\x08' then "\\b"
  else if 0x20 ≤ c.value ∧ c.value < 0x7F then [c]
  else if c.value < 0x10000 then escapeUnit c.value
  else
    escapeUnit (0xD800 + (c.value - 0x10000) / 0x400)
      ++ escapeUnit (0xDC00 + (c.value - 0x10000) % 0x400)

/-- A text between double quotes. -/
def writeText (t : Text) : Text := "\"" ++ t.flatMap escape ++ "\""

/-- A floating-point number; the values that are no numbers are written as words. -/
def writeFloat : Binary64 → Text
  | .nan => "NaN"
  | .infinite negative => if negative then "-Infinity" else "Infinity"
  | x => x.toText

/-- Entries in the order of their names. -/
def sortEntries (entries : List (Text × Text)) : List (Text × Text) :=
  sortBy (fun a b => a.1.le b.1) entries

mutual

/-- A value on one line. Dates and times are written as texts in ISO form. -/
def write : Value → Text
  | .null => "null"
  | .bool b => if b then "true" else "false"
  | .int n => Text.ofInt n
  | .float x => writeFloat x
  | .text t => writeText t
  | .list items => "[" ++ Text.join ", " (writeItems items) ++ "]"
  | .table entries =>
    "\x7b" ++ Text.join ", "
      ((sortEntries (writeEntries entries)).map fun (name, v) => writeText name ++ ": " ++ v)
      ++ "\x7d"
  | .date d => writeText d.iso
  | .time t => writeText t.iso
  | .moment m => writeText m.iso

/-- The items of a list, each on its own. -/
def writeItems : List Value → List Text
  | [] => []
  | v :: vs => write v :: writeItems vs

/-- The entries of a table with their values written. -/
def writeEntries : List (Text × Value) → List (Text × Text)
  | [] => []
  | (name, v) :: entries => (name, write v) :: writeEntries entries

end

end Json

end LabelPress
