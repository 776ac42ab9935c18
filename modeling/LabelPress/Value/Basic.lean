import LabelPress.Calendar.Basic
import LabelPress.Number.Binary64

/-!
# Values

The data that descriptions, configuration files and log records are made of. Whole numbers and
binary floating-point numbers stay apart, and a table keeps its entries in the order in which
their names first came.
-/

namespace LabelPress

/-- A piece of data. -/
inductive Value where
  | null
  | bool (b : Bool)
  | int (n : Int)
  | float (x : Binary64)
  | text (t : Text)
  | list (items : List Value)
  | table (entries : List (Text × Value))
  | date (d : Date)
  | time (t : ClockTime)
  | moment (m : Moment)
  deriving Repr

instance : Inhabited Value := ⟨.null⟩

/-- The entries of a table, in order. -/
abbrev Table := List (Text × Value)

namespace Table

/-- The value at a name. -/
def get? (entries : Table) (name : Text) : Option Value :=
  (entries.find? (·.1 = name)).map (·.2)

/-- Puts a value at a name: in place of an earlier one, else at the end. -/
def put (name : Text) (value : Value) : Table → Table
  | [] => [(name, value)]
  | (n, v) :: entries =>
    if n = name then (n, value) :: entries else (n, v) :: put name value entries

/-- The names of a table, in order. -/
def names (entries : Table) : List Text := entries.map (·.1)

theorem get?_put_self (name : Text) (value : Value) (entries : Table) :
    (put name value entries).get? name = some value := by
  induction entries with
  | nil => simp [put, get?]
  | cons e es ih =>
    obtain ⟨n, v⟩ := e
    by_cases h : n = name
    · simp [put, get?, h]
    · simpa [put, get?, h] using ih

theorem get?_put_of_ne {name other : Text} (h : other ≠ name) (value : Value) (entries : Table) :
    (put name value entries).get? other = entries.get? other := by
  induction entries with
  | nil => simp [put, get?, h.symm]
  | cons e es ih =>
    obtain ⟨n, v⟩ := e
    by_cases hn : n = name
    · subst hn
      simp [put, get?, h.symm]
    · by_cases ho : n = other
      · subst ho
        simp [put, get?, h]
      · simpa [put, get?, hn, ho] using ih

end Table

namespace Value

/-- Whether a value counts as set: everything but null, false, zero and what is empty. -/
def isSet : Value → Bool
  | .null => false
  | .bool b => b
  | .int n => n != 0
  | .float x => !x.isZero
  | .text t => !t.isEmpty
  | .list items => !items.isEmpty
  | .table entries => !entries.isEmpty
  | .date _ | .time _ | .moment _ => true

/-- Whether a value is null. -/
def isNull : Value → Bool
  | .null => true
  | _ => false

/-- The text that a value is, if it is one. -/
def text? : Value → Option Text
  | .text t => some t
  | _ => none

/-- The truth value that a value is, if it is one. -/
def bool? : Value → Option Bool
  | .bool b => some b
  | _ => none

/-- The entries of a table. -/
def table? : Value → Option Table
  | .table entries => some entries
  | _ => none

/-- The entry of a table at a name. -/
def get? (v : Value) (name : Text) : Option Value := v.table?.bind (Table.get? · name)

end Value

end LabelPress
