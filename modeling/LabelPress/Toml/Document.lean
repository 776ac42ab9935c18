import LabelPress.Text.Utf8
import LabelPress.Toml.Value

/-!
# Settings texts

A settings text is a list of statements, one a line: an entry, the header of a table, or the header
of one more table of a list. Entries go to the table of the header before them. A table is declared
once at most, no name is given twice, and nothing is added to what was written as a whole.
-/

namespace LabelPress

namespace Toml

/-- What has been read of a text: the table so far, the marks on keys, and the key of the last
header. -/
structure Draft where
  table : Table := []
  marks : Marks := {}
  header : Key := []

namespace Draft

/-- Declares a table. -/
def declareTable (d : Draft) (key : Key) : Except Problem Draft := do
  if d.marks.isDeclared key ∨ d.marks.isWithinWhole key then .error .malformed
  let table ← need (makeTable? key d.table)
  return { table, marks := d.marks.declare key, header := key }

/-- Declares one more table of a list. Marks on the tables before it hold no longer. -/
def declareItem (d : Draft) (key : Key) : Except Problem Draft := do
  if d.marks.isWithinWhole key then .error .malformed
  let table ← need (append? key d.table)
  return { table, marks := (d.marks.release key).declare key, header := key }

/-- The tables on the way to an entry, under a header. -/
def tablesOnWay (header key : Key) : List Key :=
  (List.range' 1 (key.length - 1)).map fun n => header ++ key.take n

/-- Puts an entry into the table of the last header. Tables on its way have to be its own: they were
not declared by a header, and no header after this may declare them. -/
def putEntry (d : Draft) (key : Key) (v : Value) : Except Problem Draft := do
  let onWay := tablesOnWay d.header key
  if onWay.any d.marks.isDeclared then .error .malformed
  if d.marks.isWithinWhole (d.header ++ key.dropLast) then .error .malformed
  let table ← need (insert? true (d.header ++ key) v d.table)
  return { d with
    table
    marks := { d.marks with
      pending := onWay ++ d.marks.pending
      whole := if isWhole v then (d.header ++ key) :: d.marks.whole else d.marks.whole } }

end Draft

/-- Reads an entry. -/
def entry (d : Draft) (t : Text) : Except Problem (Draft × Text) := do
  let (key, t) ← need (key? t)
  match t with
  | .scalar '=' :: t =>
    let (v, rest) ← value? (skipBlanks t)
    return (← d.putEntry key v, rest)
  | _ => .error .malformed

/-- Reads the header of a table after its opening bracket. -/
def tableHeader (d : Draft) (t : Text) : Except Problem (Draft × Text) := do
  let (key, t) ← need (key? (skipBlanks t))
  return (← d.declareTable key, ← need (after? ']' t))

/-- Reads the header of one more table of a list after its opening brackets. -/
def itemHeader (d : Draft) (t : Text) : Except Problem (Draft × Text) := do
  let (key, t) ← need (key? (skipBlanks t))
  return (← d.declareItem key, ← need (Text.dropPrefix? "]]" t))

/-- Reads a statement, or nothing before a comment. -/
def statement (d : Draft) (t : Text) : Except Problem (Draft × Text) :=
  match t with
  | .scalar '[' :: .scalar '[' :: t => itemHeader { d with marks := d.marks.settle } t
  | .scalar '[' :: t => tableHeader { d with marks := d.marks.settle } t
  | .scalar '#' :: _ => .ok (d, t)
  | t => entry d t

/-- Reads statements up to the end of a text, in at most so many steps. -/
def statements : (steps : Nat) → Draft → Text → Except Problem Draft
  | 0, _, _ => .error .malformed
  | steps + 1, d, t => do
    match skipBlanks t with
    | [] => return d
    | .scalar '\n' :: t => statements steps d t
    | t =>
      let (d, t) ← statement d t
      match ← need (skipComment? (skipBlanks t)) with
      | [] => return d
      | .scalar '\n' :: t => statements steps d t
      | _ => .error .malformed

/-- A text with each return before a line feed dropped. -/
def foldLineEnds : Text → Text
  | [] => []
  | .scalar '\r' :: .scalar '\n' :: t => .scalar '\n' :: foldLineEnds t
  | c :: t => c :: foldLineEnds t

/-- The table that a settings text stands for. -/
def read (document : Text) : Except Problem Table :=
  let t := foldLineEnds document
  (statements (t.length + 1) {} t).map Draft.table

example : (read "[a]\nb.c = 1 # one\n[a.d]\n[[e]]\n[[e]]\n").toOption.isSome := by decide +kernel

example : (read "[a]\nb.c = 1\n[a.b]\n").toOption.isNone := by decide +kernel

example : (read "a = [1]\na.b = 2\n").toOption.isNone := by decide +kernel

end Toml

end LabelPress
