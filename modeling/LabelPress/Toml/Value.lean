import LabelPress.Toml.Nest
import LabelPress.Toml.Number

/-!
# Values in settings files

A value is a text, a truth value, a number, a date or time, a list over any number of lines, or a
table on one line. Lists and tables hold values again; the readers of the three call each other
and take at most as many steps as they are given.
-/

namespace LabelPress

namespace Toml

/-- What has to be there. -/
def need {α : Type} : Option α → Except Problem α
  | some a => .ok a
  | none => .error .malformed

/-- Goes past blanks, line ends and comments. -/
def skipLines? (inComment : Bool) : Text → Option Text
  | [] => some []
  | c :: t =>
    if c = .scalar '\n' then skipLines? false t
    else if inComment then if isForbidden false c then none else skipLines? true t
    else if isBlank c then skipLines? false t
    else if c = .scalar '#' then skipLines? true t
    else some (c :: t)

/-- Reads a value that holds no other value. -/
def simple (t : Text) : Except Problem (Value × Text) :=
  match date? t with
  | some r => r
  | none =>
    match time? t with
    | some (time, rest) => .ok (.time time, rest)
    | none =>
      match number? t with
      | some r => r
      | none => need (numberWord? t)

mutual

/-- Reads a value. -/
def value : (steps : Nat) → Text → Except Problem (Value × Text)
  | 0, _ => .error .malformed
  | steps + 1, t =>
    match t with
    | .scalar '"' :: rest => (need (text? '"' rest)).map fun (t, rest) => (.text t, rest)
    | .scalar '\'' :: rest => (need (text? '\'' rest)).map fun (t, rest) => (.text t, rest)
    | .scalar '[' :: rest => (items steps rest).map fun (vs, rest) => (.list vs, rest)
    | .scalar '\x7b' :: rest =>
      match skipBlanks rest with
      | .scalar '\x7d' :: rest => .ok (.table [], rest)
      | rest => (entries steps [] [] rest).map fun (table, rest) => (.table table, rest)
    | t =>
      match Text.dropPrefix? "true" t, Text.dropPrefix? "false" t with
      | some rest, _ => .ok (.bool true, rest)
      | none, some rest => .ok (.bool false, rest)
      | none, none => simple t

/-- Reads the items of a list, up to its end. A comma may stand after the last one. -/
def items : (steps : Nat) → Text → Except Problem (List Value × Text)
  | 0, _ => .error .malformed
  | steps + 1, t => do
    match ← need (skipLines? false t) with
    | .scalar ']' :: rest => return ([], rest)
    | t =>
      let (v, t) ← value steps t
      match ← need (skipLines? false t) with
      | .scalar ']' :: rest => return ([v], rest)
      | .scalar ',' :: rest =>
        let (vs, rest) ← items steps rest
        return (v :: vs, rest)
      | _ => .error .malformed

/-- Reads the entries of a table on one line, up to its end, to come after those in `table`, of
which those under `whole` can not be added to. -/
def entries : (steps : Nat) → (table : Table) → (whole : List Key) → Text →
    Except Problem (Table × Text)
  | 0, _, _, _ => .error .malformed
  | steps + 1, table, whole, t => do
    let (key, t) ← need (key? t)
    match t with
    | .scalar '=' :: t =>
      let (v, t) ← value steps (skipBlanks t)
      if whole.any (·.isPrefixOf key) then .error .malformed
      let table ← need (insert? false key v table)
      match skipBlanks t with
      | .scalar '\x7d' :: rest => return (table, rest)
      | .scalar ',' :: rest =>
        entries steps table (if isWhole v then key :: whole else whole) (skipBlanks rest)
      | _ => .error .malformed
    | _ => .error .malformed

end

/-- Reads a value at the front of a text. Every second step takes at least one code point. -/
def value? (t : Text) : Except Problem (Value × Text) := value (2 * t.length + 2) t

end Toml

end LabelPress
