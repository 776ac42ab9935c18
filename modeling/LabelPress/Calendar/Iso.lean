import LabelPress.Calendar.Basic

/-!
# Dates and times in ISO form

Writing is strict: two or four digits, a fraction of a second only where there is one. Reading
takes a date with hyphens, one code point of any kind, and a time of day in the forms that the
standard's readers let through: with or without colons, cut after the hours or minutes, with a
fraction after a point, a comma or a third colon, and an offset. The readers look one place past
the end of a text and find a NUL there, so a NUL that the text itself holds can end it too; where
an offset follows, one stray byte before it is passed over.
-/

namespace LabelPress

/-! ## Writing -/

/-- A date, as in `2024-03-05`. -/
def Date.iso (d : Date) : Text :=
  Text.padded 4 d.year ++ "-" ++ Text.padded 2 d.month ++ "-" ++ Text.padded 2 d.day

/-- A time of day with its seconds, and with six digits of a fraction unless that is zero. -/
def ClockTime.iso (t : ClockTime) : Text :=
  Text.padded 2 t.hour ++ ":" ++ Text.padded 2 t.minute ++ ":" ++ Text.padded 2 t.second
    ++ Text.when (t.microsecond ≠ 0) ("." ++ Text.padded 6 t.microsecond)

/-- An offset: sign, hours and minutes, and what is left of it unless that is zero. -/
def Offset.iso (o : Offset) : Text :=
  let n := o.microseconds.natAbs
  let seconds := n / 1000000
  (if o.microseconds < 0 then "-" else "+") ++ Text.padded 2 (seconds / 3600) ++ ":"
    ++ Text.padded 2 (seconds / 60 % 60)
    ++ Text.when (seconds % 60 ≠ 0 ∨ n % 1000000 ≠ 0) (":" ++ Text.padded 2 (seconds % 60))
    ++ Text.when (n % 1000000 ≠ 0) ("." ++ Text.padded 6 (n % 1000000))

/-- A moment, as in `2024-03-05T16:45:00+01:00`. -/
def Moment.iso (m : Moment) : Text :=
  m.date.iso ++ "T" ++ m.time.iso ++ (m.offset.map Offset.iso).getD []

/-- A due time in the form of its kind. -/
def Due.iso : Due → Text
  | .time t => t.iso
  | .moment m => m.iso

/-! ## Reading -/

namespace Iso

/-- The number that two ASCII digits at the front write, and what follows them. -/
def twoDigits? : Text → Option (Nat × Text)
  | a :: b :: rest => do return (10 * (← a.digit?) + (← b.digit?), rest)
  | _ => none

/-- The number that four ASCII digits at the front write, and what follows them. -/
def fourDigits? (t : Text) : Option (Nat × Text) := do
  let (high, t) ← twoDigits? t
  let (low, t) ← twoDigits? t
  return (100 * high + low, t)

/-- A date with hyphens at the front of a text, and what follows it. -/
def date? (t : Text) : Option (Date × Text) := do
  let (year, t) ← fourDigits? t
  let t ← Text.dropPrefix? "-" t
  let (month, t) ← twoDigits? t
  let t ← Text.dropPrefix? "-" t
  let (day, t) ← twoDigits? t
  return (← Date.of? year month day, t)

/-- The parts of a time of day before they are tested for being in range. -/
structure Parts where
  hour : Nat := 0
  minute : Nat := 0
  second : Nat := 0
  microsecond : Nat := 0

/-- Microseconds from the digits of a fraction: six at most count, and the others are passed
over. What comes back beside them is what follows the digits. -/
def fraction? (t : Text) : Option (Nat × Text) := do
  let counted := t.take 6
  let n ← Text.toNat? counted
  return (n * Nat.pow 10 (6 - counted.length), (t.drop 6).dropWhile CodePoint.isAsciiDigit)

/-- How a reading of time parts ended: at the end of the text, or short of it. -/
structure Reading where
  parts : Parts
  complete : Bool

/-- Whether a code point is a point or comma. -/
def isDecimalMark (c : CodePoint) : Bool := c = .scalar '.' || c = .scalar ','

/-- Whether the code point past the last digit read marks the end of all input. -/
def ends (c : Option CodePoint) : Bool := c.all (· = .scalar '\x00')

/-- A reading with one code point left over, which has to be a single byte. -/
def endWithStray? (p : Parts) (c : CodePoint) : Option Reading :=
  if c.value < 0x80 then some ⟨p, ends c⟩ else none

/-- A fraction that ends a reading. `next` is the code point past the end. -/
def endWithFraction? (p : Parts) (t : Text) (next : Option CodePoint) : Option Reading := do
  let (microsecond, rest) ← fraction? t
  return ⟨{ p with microsecond }, ends (rest ++ next.toList).head?⟩

/-- Reads hours, then minutes and seconds where they are given, then a fraction. `text` is what
belongs to the time; `next` is the code point past it, if there is one. A reading is complete if
what ends it is the end of all input or a NUL. -/
def parts? (text : Text) (next : Option CodePoint) : Option Reading := do
  let (hour, t) ← twoDigits? text
  match t with
  | [] => return ⟨{ hour }, ends next⟩
  | [c] => endWithStray? { hour } c
  | c :: t =>
    if isDecimalMark c then endWithFraction? { hour } t next
    else
      let colons := c = .scalar ':'
      let (minute, t) ← twoDigits? (if colons then t else c :: t)
      match t with
      | [] => return ⟨{ hour, minute }, ends next⟩
      | [c] => endWithStray? { hour, minute } c
      | c :: t =>
        if isDecimalMark c then endWithFraction? { hour, minute } t next
        else if colons && c != .scalar ':' then none
        else
          let (second, t) ← twoDigits? (if colons then t else c :: t)
          match t with
          | [] => return ⟨{ hour, minute, second }, ends next⟩
          | [c] => endWithStray? { hour, minute, second } c
          | c :: t =>
            if isDecimalMark c || (colons && c = .scalar ':') then
              endWithFraction? { hour, minute, second } t next
            else if colons then none
            else endWithFraction? { hour, minute, second } (c :: t) next

/-- Whether a code point starts an offset. -/
def startsOffset (c : CodePoint) : Bool :=
  c = .scalar '+' || c = .scalar '-' || c = .scalar 'Z'

/-- An offset whose seconds add up to zero is universal time, whatever its fraction. -/
def offset? (negative : Bool) (p : Parts) : Option Offset :=
  let seconds := p.hour * 3600 + p.minute * 60 + p.second
  if seconds = 0 then some .zero
  else
    let n : Int := seconds * 1000000 + p.microsecond
    Offset.of? (if negative then -n else n)

/-- The time of day and the offset that a text writes. -/
def time? (t : Text) : Option (ClockTime × Option Offset) := do
  let body := t.takeWhile (fun c => !startsOffset c)
  let tail := t.dropWhile (fun c => !startsOffset c)
  let reading ← parts? body tail.head?
  let p := reading.parts
  let offset ← match tail with
    | [] => if reading.complete then some none else none
    | sign :: rest =>
      if sign = .scalar 'Z' then
        if ends rest.head? then some (some Offset.zero) else none
      else do
        let reading ← parts? rest none
        if reading.complete then
          some (some (← offset? (sign = .scalar '-') reading.parts)) else none
  return (← ClockTime.of? p.hour p.minute p.second p.microsecond, offset)

/-- The moment that a text writes: a date, one code point, and a time of day. -/
def moment? (t : Text) : Option Moment := do
  if !t.all CodePoint.isScalar then none
  let (date, t) ← date? t
  match t with
  | [] => none
  | _ :: t =>
    let (time, offset) ← time? t
    return ⟨date, time, offset⟩

end Iso

end LabelPress
