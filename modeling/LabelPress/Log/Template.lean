import LabelPress.Number.Places
import LabelPress.Value.Display

/-!
# Messages with places for values

A message may be a template: a percent sign starts a place, which takes the next of the values
given, or the one of a name in a table, and tells how to show it. A template whose places do not
fit the values given has no text.
-/

namespace LabelPress

namespace Log

/-- How a place shows its value: flags, least width, number of places, and form. -/
structure Field where
  flags : Text
  width : Nat
  places : Option Nat
  form : Char

namespace Field

/-- Whether a field has a flag. -/
def has (f : Field) (flag : Char) : Bool := Text.has f.flags flag

/-- A text with blanks up to the width of its field. -/
def fit (f : Field) (t : Text) : Text :=
  let blanks := List.replicate (f.width - t.length) (.scalar ' ')
  if f.has '-' then t ++ blanks else blanks ++ t

/-- A number with its sign, with zeros or blanks up to the width of its field. -/
def fitNumber (f : Field) (negative : Bool) (mark digits : Text) : Text :=
  let sign : Text :=
    if negative then "-" else if f.has '+' then "+" else if f.has ' ' then " " else ""
  if f.has '0' ∧ ¬ f.has '-' then
    let used := sign.length + mark.length + digits.length
    sign ++ mark ++ List.replicate (f.width - used) (.scalar '0') ++ digits
  else f.fit (sign ++ mark ++ digits)

/-- A whole number in a base, with a mark for it. -/
def showInt (f : Field) (n : Int) (base : Nat) (mark : Text) : Text :=
  let digits : Text := (Nat.toDigits base n.natAbs).map .scalar
  let zeros := List.replicate (f.places.getD 0 - digits.length) (.scalar '0')
  f.fitNumber (n < 0) (Text.when (f.has '#') mark) (zeros ++ digits)

/-- A floating-point number, laid out by a function of places, mantissa and exponent, which is told
whether to keep a point that nothing follows. -/
def showFloat (f : Field) (layOut : Bool → Nat → Nat → Int → Text) (x : Binary64) : Text :=
  match x with
  | .nan => f.fitNumber false [] "nan"
  | .infinite negative => f.fitNumber negative [] "inf"
  | .finite negative m e =>
    f.fitNumber negative [] (layOut (f.has '#') (f.places.getD 6) m e)

/-- The first code points of a text, as many as the field has places for. -/
def cut (f : Field) (t : Text) : Text :=
  match f.places with
  | some n => t.take n
  | none => t

/-- A quoted text in ASCII. -/
def inAscii (t : Text) : Text :=
  t.flatMap fun c =>
    if c.value < 0x80 then [c]
    else if c.value < 0x100 then "\\x" ++ Text.hex 2 c.value
    else if c.value < 0x10000 then "\\u" ++ Text.hex 4 c.value
    else "\\U" ++ Text.hex 8 c.value

end Field

/-- A value as a whole number. -/
def wholeNumber? : Value → Option Int
  | .int n => some n
  | .bool b => some (if b then 1 else 0)
  | _ => none

/-- A value as a whole number, a fraction being cut off. -/
def truncated? : Value → Option Int
  | .float x => x.toRatio?.map fun (n, d) => n.tdiv d
  | v => wholeNumber? v

/-- A value as a floating-point number. -/
def floating? : Value → Option Binary64
  | .float x => some x
  | v => (wholeNumber? v).bind Binary64.ofInt?

/-- A value as one code point, which may be given by its number. -/
def codePoint? : Value → Option Text
  | .text [c] => some [c]
  | v => (wholeNumber? v).bind fun n =>
    if 0 ≤ n ∧ n < 0x110000 then some [.ofNat n.toNat] else none

/-- A value as its field shows it. -/
def Field.show? (f : Field) (v : Value) : Option Text :=
  match f.form with
  | 's' => some (f.fit (f.cut v.plain))
  | 'r' => some (f.fit (f.cut v.quoted))
  | 'a' => some (f.fit (f.cut (Field.inAscii v.quoted)))
  | 'c' => (codePoint? v).map f.fit
  | 'd' | 'i' | 'u' => (truncated? v).map fun n => f.showInt n 10 []
  | 'o' => (wholeNumber? v).map fun n => f.showInt n 8 "0o"
  | 'x' => (wholeNumber? v).map fun n => f.showInt n 16 "0x"
  | 'X' => (wholeNumber? v).map fun n => Text.toAsciiUpper (f.showInt n 16 "0x")
  | 'f' => (floating? v).map (f.showFloat Binary64.positional)
  | 'F' => (floating? v).map fun x => Text.toAsciiUpper (f.showFloat Binary64.positional x)
  | 'e' => (floating? v).map (f.showFloat Binary64.withExponent)
  | 'E' => (floating? v).map fun x => Text.toAsciiUpper (f.showFloat Binary64.withExponent x)
  | 'g' => (floating? v).map (f.showFloat Binary64.general)
  | 'G' => (floating? v).map fun x => Text.toAsciiUpper (f.showFloat Binary64.general x)
  | _ => none

/-- The values for the places of a template: a table by name, and those to be taken in turn. -/
structure Supply where
  named : Option Table
  turn : List Value

/-- The supply of a list of values. A table alone, unless it is empty, gives its entries by name. -/
def Supply.of (arguments : List Value) : Supply :=
  match arguments with
  | [.table (e :: entries)] => { named := some (e :: entries), turn := arguments }
  | arguments => { named := none, turn := arguments }

/-- The largest size that a field may have. -/
def maxSize : Nat := Nat.pow 2 31 - 1

/-- A number in a field: digits, or a star for the next value. -/
def size? (s : Supply) (t : Text) : Option (Option Int × Supply × Text) :=
  match t with
  | .scalar '*' :: rest =>
    match s.turn with
    | v :: turn => (wholeNumber? v).bind fun n =>
      if n.natAbs ≤ maxSize then some (some n, { s with turn }, rest) else none
    | [] => none
  | t =>
    let digits := t.takeWhile CodePoint.isAsciiDigit
    let size := Text.toNat? digits
    if size.any (maxSize < ·) then none else some (size.map Int.ofNat, s, t.drop digits.length)

/-- The name in brackets at the front of a place, in which brackets come in pairs. -/
def bracketed? : (depth : Nat) → Text → Option (Text × Text)
  | _, [] => none
  | depth, c :: t =>
    if c = .scalar ')' then
      match depth with
      | 0 => some ([], t)
      | depth + 1 => (bracketed? depth t).map fun (name, rest) => (c :: name, rest)
    else
      (bracketed? (if c = .scalar '(' then depth + 1 else depth) t).map fun (name, rest) =>
        (c :: name, rest)

/-- The supply for a place that may start with a name. -/
def supplyNamed? (s : Supply) (t : Text) : Option (Supply × Text) :=
  match t with
  | .scalar '(' :: rest => do
    let (name, rest) ← bracketed? 0 rest
    let v ← (← s.named).get? name
    return ({ s with turn := [v] }, rest)
  | t => some (s, t)

/-- Whether a code point is a flag of a field. -/
def isFlag (c : CodePoint) : Bool := Text.has "-+ #0" c

/-- A text without a letter for the size of a number at its front, which says nothing. -/
def dropSizeLetter (t : Text) : Text :=
  match t with
  | .scalar c :: rest => if c = 'h' ∨ c = 'l' ∨ c = 'L' then rest else t
  | t => t

/-- Reads a place after its percent sign and its name, and gives what it shows. -/
def place? (s : Supply) (t : Text) : Option (Text × Supply × Text) := do
  let flags := t.takeWhile isFlag
  let (width, s, t) ← size? s (t.drop flags.length)
  let (places, s, t) ← match t with
    | .scalar '.' :: t => do
      let (places, s, t) ← size? s t
      pure (some ((places.getD 0).toNat), s, t)
    | t => pure (none, s, t)
  match s.turn, dropSizeLetter t with
  | v :: turn, .scalar form :: rest =>
    let field : Field :=
      { flags := if (width.getD 0) < 0 then .scalar '-' :: flags else flags
        width := (width.getD 0).natAbs
        places
        form }
    return (← field.show? v, { s with turn }, rest)
  | _, _ => none

/-- Fills the places of a template, in at most so many steps. -/
def fillFrom? : (steps : Nat) → Supply → Text → Option Text
  | 0, _, _ => none
  | _ + 1, s, [] => if s.named.isSome ∨ s.turn.isEmpty then some [] else none
  | steps + 1, s, c :: t =>
    if c ≠ .scalar '%' then (fillFrom? steps s t).map (c :: ·)
    else if t.head? = some (.scalar '%') then (fillFrom? steps s (t.drop 1)).map (c :: ·)
    else do
      let (s, t) ← supplyNamed? s t
      let (shown, s, t) ← place? s t
      return shown ++ (← fillFrom? steps s t)

/-- The text of a message. Without values it is no template. -/
def fill? (message : Text) (arguments : List Value) : Option Text :=
  if arguments.isEmpty then some message
  else fillFrom? (message.length + 1) (.of arguments) message

example : fill? "%s of %05.1f%%" [.text "a", .int 2] = some (Text.ofString "a of 002.0%") := by
  decide +kernel

example : fill? "%s" [.int 1, .int 2] = none ∧ fill? "%s" [] = some (Text.ofString "%s") := by
  decide +kernel

end Log

end LabelPress
