import LabelPress.Toml.Text
import LabelPress.Value.Basic

/-!
# Tables under keys

A settings text names its tables and values by keys, each of several names. Here is how a table is
found or made under a key, and the marks that a text leaves on keys: a table may be declared once
only, and what was written as a whole may not be added to.
-/

namespace LabelPress

namespace Toml

/-- Changes the table under a key. Tables on the way that are not there are made; where `lists`
holds, a list of tables on the way stands for its last table. Anything else on the way is no
table. -/
def change? (lists : Bool) (f : Table → Option Table) : Key → Table → Option Table
  | [], table => f table
  | name :: key, table =>
    match table.get? name with
    | none => (change? lists f key []).map fun inner => table.put name (.table inner)
    | some (.table inner) =>
      (change? lists f key inner).map fun inner => table.put name (.table inner)
    | some (.list items) =>
      match lists, items.reverse with
      | true, .table last :: before =>
        (change? lists f key last).map fun last =>
          table.put name (.list (.table last :: before).reverse)
      | _, _ => none
    | some _ => none

/-- Makes a table under a key, unless it is there. -/
def makeTable? (key : Key) (table : Table) : Option Table := change? true some key table

/-- Puts a value under a key under which there is none. -/
def insert? (lists : Bool) (key : Key) (value : Value) (table : Table) : Option Table :=
  let name := key.getLastD []
  change? lists (fun inner => if (inner.get? name).isSome then none else some (inner.put name value))
    key.dropLast table

/-- Puts a new table at the end of the list under a key. -/
def append? (key : Key) (table : Table) : Option Table :=
  let name := key.getLastD []
  change? true
    (fun inner =>
      match inner.get? name with
      | none => some (inner.put name (.list [.table []]))
      | some (.list items) => some (inner.put name (.list (items ++ [.table []])))
      | some _ => none)
    key.dropLast table

/-- Whether a value was written as a whole and can not be added to later. -/
def isWhole : Value → Bool
  | .table _ | .list _ => true
  | _ => false

/-- The marks on keys. -/
structure Marks where
  /-- Keys whose tables can not be declared again. -/
  declared : List Key := []
  /-- Keys of values written as a whole. -/
  whole : List Key := []
  /-- Keys that count as declared from the next header on. -/
  pending : List Key := []
  deriving Repr

namespace Marks

/-- Whether a key leads to a value written as a whole, or into it. -/
def isWithinWhole (m : Marks) (key : Key) : Bool := m.whole.any (·.isPrefixOf key)

/-- Whether a key has been declared. -/
def isDeclared (m : Marks) (key : Key) : Bool := m.declared.contains key

/-- The marks with a key declared. -/
def declare (key : Key) (m : Marks) : Marks := { m with declared := key :: m.declared }

/-- The marks when a header comes. -/
def settle (m : Marks) : Marks :=
  { m with declared := m.pending ++ m.declared, pending := [] }

/-- The marks without those on a key and what is under it. -/
def release (key : Key) (m : Marks) : Marks :=
  { m with
    declared := m.declared.filter fun other => !key.isPrefixOf other
    whole := m.whole.filter fun other => !key.isPrefixOf other }

end Marks

end Toml

end LabelPress
