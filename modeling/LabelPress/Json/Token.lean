import LabelPress.Number.Digits
import LabelPress.Value.Basic

/-!
# Tokens of data texts

A data text is cut into tokens from left to right, each with the place where it starts. What
cannot be a token is one too, with its flaw: whether the flaw is reported, or something else that
is wrong at the same place, depends on what is expected there. Reading stops being of interest
after the first such token.

The cut is a single pass over the code points. At the start of a token its length is found by
looking ahead, and that many code points are skipped.
-/

namespace LabelPress

namespace Json

/-- What can be wrong inside a quoted text. -/
inductive TextFlaw where
  /-- The text does not end. -/
  | unterminated
  /-- A control character stands in it as it is. -/
  | control
  /-- An unknown letter follows a backslash. -/
  | badEscape
  /-- The number of a code point is not four hexadecimal digits. -/
  | badNumber
  deriving DecidableEq, Repr

/-- A token. -/
inductive Token where
  | openList
  | closeList
  | openTable
  | closeTable
  | comma
  | colon
  | text (t : Text)
  | literal (v : Value)
  /-- A quoted text with a flaw at a place. -/
  | badText (flaw : TextFlaw) (position : Nat)
  /-- A whole number of more digits than are read. -/
  | longInt (digits : Nat)
  /-- A code point that starts no token. -/
  | stray
  deriving Repr

/-! ## Quoted texts -/

/-- The code point that a letter after a backslash stands for. -/
def letterEscape? : CodePoint → Option CodePoint
  | .scalar '"' => some '"'
  | .scalar '\\' => some '\\'
  | .scalar '/' => some '/'
  | .scalar 'b' => some '\x08'
  | .scalar 'f' => some '\x0c'
  | .scalar 'n' => some '\n'
  | .scalar 'r' => some '\r'
  | .scalar 't' => some '\t'
  | _ => none

/-- The number that four hexadecimal digits write. -/
def fourHex? (a b c d : CodePoint) : Option Nat := Text.toNatBase? 16 [a, b, c, d]

/-- A code point of a quoted text, and whether its number was given by an escape. -/
structure Unit where
  escaped : Bool
  point : CodePoint
  deriving DecidableEq, Repr

/-- Adds a unit in front of those read, and what it took to the count. -/
def prepend (u : Unit) (taken : Nat) (read : List Unit × Nat) : List Unit × Nat :=
  (u :: read.1, taken + read.2)

/-- Reads a quoted text after its opening quote, and counts the code points it takes, the closing
quote among them. `place` is where the reading stands, and a flaw comes with its place. Something
has to follow the four digits of an escaped number. -/
def scanText (start place : Nat) : Text → Except (TextFlaw × Nat) (List Unit × Nat)
  | [] => .error (.unterminated, start)
  | .scalar '"' :: _ => .ok ([], 1)
  | [.scalar '\\'] => .error (.unterminated, start)
  | .scalar '\\' :: .scalar 'u' :: a :: b :: c :: d :: rest =>
    match rest.isEmpty, fourHex? a b c d with
    | false, some n => (scanText start (place + 6) rest).map (prepend ⟨true, .ofNat n⟩ 6)
    | _, _ => .error (.badNumber, place + 1)
  | .scalar '\\' :: .scalar 'u' :: _ => .error (.badNumber, place + 1)
  | .scalar '\\' :: c :: rest =>
    match letterEscape? c with
    | some e => (scanText start (place + 2) rest).map (prepend ⟨false, e⟩ 2)
    | none => .error (.badEscape, place)
  | c :: rest =>
    if c.value < 0x20 then .error (.control, place)
    else (scanText start (place + 1) rest).map (prepend ⟨false, c⟩ 1)
termination_by structural t => t

/-- The text of some units: two halves of a pair that were both escaped become one code point. -/
def joinUnits : List Unit → Text
  | [] => []
  | [u] => [u.point]
  | u :: v :: rest =>
    if u.escaped ∧ v.escaped ∧ u.point.isHighHalf ∧ v.point.isLowHalf then
      .joinHalves u.point.value v.point.value :: joinUnits rest
    else u.point :: joinUnits (v :: rest)

/-! ## Numbers -/

/-- The fraction at the front of a text: a point and its digits, if there is one. -/
def fractionPart (t : Text) : Text :=
  match t with
  | .scalar '.' :: rest => rest.takeWhile CodePoint.isAsciiDigit
  | _ => []

/-- The exponent at the front of a text: its sign, its digits, and how many code points it takes,
if there is one. -/
def exponentPart? (t : Text) : Option (Bool × Text × Nat) :=
  let digits (negative : Bool) (before : Nat) (rest : Text) : Option (Bool × Text × Nat) :=
    let ds := rest.takeWhile CodePoint.isAsciiDigit
    if ds.isEmpty then none else some (negative, ds, before + ds.length)
  let signed (rest : Text) : Option (Bool × Text × Nat) :=
    match rest with
    | .scalar '-' :: rest => digits true 2 rest
    | .scalar '+' :: rest => digits false 2 rest
    | rest => digits false 1 rest
  match t with
  | .scalar 'e' :: rest => signed rest
  | .scalar 'E' :: rest => signed rest
  | _ => none

/-- The digits of a whole number at the front of a text: a zero alone, or all that follow. -/
def wholePart (t : Text) : Text :=
  match t with
  | .scalar '0' :: _ => ['0']
  | t => t.takeWhile CodePoint.isAsciiDigit

/-- A number at the front of a text after its sign, and how many code points it takes. -/
def scanNumber? (negative : Bool) (t : Text) : Option (Token × Nat) :=
  let whole := wholePart t
  if whole.isEmpty then none
  else
    let fraction := fractionPart (t.drop whole.length)
    let taken := whole.length + (if fraction.isEmpty then 0 else fraction.length + 1)
    match fraction, exponentPart? (t.drop taken) with
    | [], none =>
      if Digits.limit < whole.length then some (.longInt whole.length, taken)
      else
        some (.literal (.int (Digits.signed negative (Digits.value whole))), taken)
    | fraction, none => some (.literal (.float (Digits.float negative whole fraction 0)), taken)
    | fraction, some (down, digits, width) =>
      let exponent := Digits.signed down (Digits.value digits)
      some (.literal (.float (Digits.float negative whole fraction exponent)), taken + width)

/-! ## Tokens -/

/-- The words that stand for a value. -/
def words : List (Text × Value) :=
  [("null", .null), ("true", .bool true), ("false", .bool false), ("NaN", .float .nan),
    ("Infinity", .float (.infinite false)), ("-Infinity", .float (.infinite true))]

/-- The word at the front of a text. -/
def word? (t : Text) : Option (Token × Nat) :=
  (words.find? fun (word, _) => t.startsWith word).map fun (word, v) =>
    (.literal v, word.length)

/-- The token at the front of the text `c :: rest`, which starts at a place, and how many code
points it takes. -/
def front (place : Nat) (c : CodePoint) (rest : Text) : Token × Nat :=
  if c = .scalar '[' then (.openList, 1)
  else if c = .scalar ']' then (.closeList, 1)
  else if c = .scalar '\x7b' then (.openTable, 1)
  else if c = .scalar '\x7d' then (.closeTable, 1)
  else if c = .scalar ',' then (.comma, 1)
  else if c = .scalar ':' then (.colon, 1)
  else if c = .scalar '"' then
    match scanText place (place + 1) rest with
    | .ok (units, taken) => (.text (joinUnits units), taken + 1)
    | .error (flaw, at_) => (.badText flaw at_, 1)
  else
    let number :=
      if c = .scalar '-' then (scanNumber? true rest).map fun (t, n) => (t, n + 1)
      else scanNumber? false (c :: rest)
    ((word? (c :: rest)).or number).getD (.stray, 1)

/-- Whether a code point only separates tokens. -/
def isSpace (c : CodePoint) : Bool :=
  c = .scalar ' ' || c = .scalar '\t' || c = .scalar '\n' || c = .scalar '\r'

/-- The tokens of a text that starts at a place, `skip` code points of which belong to the token
before. Each comes with its place. -/
def tokensFrom : (skip place : Nat) → Text → List (Nat × Token)
  | _, _, [] => []
  | skip + 1, place, _ :: rest => tokensFrom skip (place + 1) rest
  | 0, place, c :: rest =>
    if isSpace c then tokensFrom 0 (place + 1) rest
    else
      let (token, taken) := front place c rest
      (place, token) :: tokensFrom (taken - 1) (place + 1) rest

/-- The tokens of a text, each with its place. -/
def tokens (t : Text) : List (Nat × Token) := tokensFrom 0 0 t

end Json

end LabelPress
