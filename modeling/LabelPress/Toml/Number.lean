import LabelPress.Number.Digits
import LabelPress.Value.Basic

/-!
# Numbers, dates and times in settings files

Each reader takes what stands at the front of a text and gives what follows it.
-/

namespace LabelPress

namespace Toml

/-- Why a text is no settings text: it is malformed, or it holds a whole number of too many
digits. -/
inductive Problem where
  | malformed
  | longInt (digits : Nat)
  deriving DecidableEq, Repr

/-! ## Numbers -/

/-- Whether a code point is a digit of a base. -/
def isBaseDigit (base : Nat) (c : CodePoint) : Bool := c.hexDigit?.any (· < base)

/-- A whole number in base 16, 2 or 8 after the letter for its base. -/
def based? (t : Text) : Option (Value × Text) :=
  let read (base : Nat) (t : Text) : Option (Value × Text) :=
    let (digits, rest) := Digits.run (isBaseDigit base) t
    if digits.isEmpty then none
    else (Text.toNatBase? base digits).map fun n => (.int n, rest)
  match t with
  | .scalar '0' :: .scalar 'x' :: t => read 16 t
  | .scalar '0' :: .scalar 'b' :: t => read 2 t
  | .scalar '0' :: .scalar 'o' :: t => read 8 t
  | _ => none

/-- The digits of a fraction at the front of a text, and what follows it. -/
def fractionRun (t : Text) : Text × Text :=
  match t with
  | .scalar '.' :: rest =>
    let (digits, after) := Digits.run CodePoint.isAsciiDigit rest
    if digits.isEmpty then ([], t) else (digits, after)
  | t => ([], t)

/-- The exponent at the front of a text, and what follows it. -/
def exponentRun? (t : Text) : Option (Int × Text) :=
  match t with
  | .scalar c :: rest =>
    if c = 'e' ∨ c = 'E' then
      let (negative, rest) := Digits.sign rest
      let (digits, rest) := Digits.run CodePoint.isAsciiDigit rest
      if digits.isEmpty then none
      else some (Digits.signed negative (Digits.value digits), rest)
    else none
  | _ => none

/-- The digits of a whole number: a zero alone, or a run that starts with another digit. -/
def wholeRun (t : Text) : Text × Text :=
  match t with
  | .scalar '0' :: rest => (['0'], rest)
  | t => Digits.run CodePoint.isAsciiDigit t

/-- A number at the front of a text. -/
def number? (t : Text) : Option (Except Problem (Value × Text)) :=
  match based? t with
  | some r => some (.ok r)
  | none =>
    let (negative, body) := Digits.sign t
    let (whole, rest) := wholeRun body
    if whole.isEmpty then none
    else
      let (fraction, rest) := fractionRun rest
      match fraction, exponentRun? rest with
      | [], none =>
        if Digits.limit < whole.length then some (.error (.longInt whole.length))
        else some (.ok (.int (Digits.signed negative (Digits.value whole)), rest))
      | fraction, none => some (.ok (.float (Digits.float negative whole fraction 0), rest))
      | fraction, some (exponent, rest) =>
        some (.ok (.float (Digits.float negative whole fraction exponent), rest))

/-- The words for numbers that are infinite or none. -/
def numberWords : List (Text × Binary64) :=
  [("inf", .infinite false), ("nan", .nan), ("-inf", .infinite true), ("+inf", .infinite false),
    ("-nan", .nan), ("+nan", .nan)]

/-- The number for which a word at the front of a text stands. -/
def numberWord? (t : Text) : Option (Value × Text) :=
  numberWords.findSome? fun (word, x) => (Text.dropPrefix? word t).map fun rest => (.float x, rest)

/-! ## Dates and times -/

/-- The number that so many ASCII digits at the front of a text write, and what follows. -/
def fixedDigits? (width : Nat) (t : Text) : Option (Nat × Text) :=
  let digits := t.take width
  if digits.length = width ∧ digits.all CodePoint.isAsciiDigit then
    some (Digits.value digits, t.drop width)
  else none

/-- What follows a code point at the front of a text. -/
def after? (c : CodePoint) (t : Text) : Option Text := Text.dropPrefix? [c] t

/-- A time of day at the front of a text. -/
def time? (t : Text) : Option (ClockTime × Text) := do
  let (hour, t) ← fixedDigits? 2 t
  let (minute, t) ← fixedDigits? 2 (← after? ':' t)
  let (second, t) ← fixedDigits? 2 (← after? ':' t)
  let digits := match t with
    | .scalar '.' :: rest => rest.takeWhile CodePoint.isAsciiDigit
    | _ => []
  let counted := digits.take 6
  let microsecond := Digits.value counted * Nat.pow 10 (6 - counted.length)
  let rest := if digits.isEmpty then t else t.drop (digits.length + 1)
  return (← ClockTime.of? hour minute second (if digits.isEmpty then 0 else microsecond), rest)

/-- The offset at the front of a text, if there is one. -/
def offset (t : Text) : Option Offset × Text :=
  let read (negative : Bool) (rest : Text) : Option (Offset × Text) := do
    let (hour, rest) ← fixedDigits? 2 rest
    let (minute, rest) ← fixedDigits? 2 (← after? ':' rest)
    if 24 ≤ hour ∨ 60 ≤ minute then none
    return (← Offset.of? (Digits.signed negative ((hour * 60 + minute) * 60000000)), rest)
  match t with
  | .scalar 'Z' :: rest => (some .zero, rest)
  | .scalar 'z' :: rest => (some .zero, rest)
  | .scalar '+' :: rest => ((read false rest).map fun (o, rest) => (some o, rest)).getD (none, t)
  | .scalar '-' :: rest => ((read true rest).map fun (o, rest) => (some o, rest)).getD (none, t)
  | t => (none, t)

/-- A date at the front of a text, which may be followed by a time of day and an offset. A day that
is not in the calendar is malformed, though its month and day are numbers of months and days. -/
def date? (t : Text) : Option (Except Problem (Value × Text)) := do
  let (year, t) ← fixedDigits? 4 t
  let (month, t) ← fixedDigits? 2 (← after? '-' t)
  let (day, t) ← fixedDigits? 2 (← after? '-' t)
  if month = 0 ∨ 12 < month ∨ day = 0 ∨ 31 < day then none
  let timed := match t with
    | .scalar c :: rest => if c = 'T' ∨ c = 't' ∨ c = ' ' then time? rest else none
    | _ => none
  match Date.of? year month day, timed with
  | none, _ => return .error .malformed
  | some date, none => return .ok (.date date, t)
  | some date, some (time, rest) =>
    let (offset, rest) := offset rest
    return .ok (.moment { date, time, offset }, rest)

end Toml

end LabelPress
