import LabelPress.Number.Digits
import LabelPress.Text.Blank
import LabelPress.Text.Digit

/-!
# Numbers in arguments

An argument that stands for a number may have blanks around it, underscores between its digits,
and digits of any script.
-/

namespace LabelPress

namespace Arguments

/-- Whether a code point is a blank around numbers: any blank but the four ASCII separators. -/
def isNumberBlank (c : CodePoint) : Bool :=
  c.isBlank && !(0x1C ≤ c.value && c.value ≤ 0x1F)

/-- An argument without the blanks around it and with its digits in ASCII. -/
def numberText (t : Text) : Text :=
  (t.trim isNumberBlank).map fun c =>
    match c.decimal? with
    | some d => .scalar (Nat.digitChar d)
    | none => c

/-- The whole number that an argument stands for. -/
def int? (t : Text) : Option Int :=
  let (negative, body) := Digits.sign (numberText t)
  let (digits, rest) := Digits.run CodePoint.isAsciiDigit body
  if digits.isEmpty ∨ ¬ rest.isEmpty ∨ Digits.limit < digits.length then none
  else some (Digits.signed negative (Digits.value digits))

/-- The exponent that a text is, if it is one; the empty text stands for zero. -/
def exponent? (t : Text) : Option Int :=
  match t with
  | [] => some 0
  | c :: t =>
    let (negative, body) := Digits.sign t
    let (digits, rest) := Digits.run CodePoint.isAsciiDigit body
    if (c = .scalar 'e' ∨ c = .scalar 'E') ∧ ¬ digits.isEmpty ∧ rest.isEmpty then
      some (Digits.signed negative (Digits.value digits))
    else none

/-- The floating-point number that an argument stands for: digits before or after a point, or both,
and perhaps an exponent, or a word for what is infinite or no number, in any case. -/
def float? (t : Text) : Option Binary64 :=
  let (negative, body) := Digits.sign (numberText t)
  let word := body.toAsciiLower
  if word = Text.ofString "inf" ∨ word = Text.ofString "infinity" then some (.infinite negative)
  else if word = Text.ofString "nan" then some .nan
  else
    let (whole, rest) := Digits.run CodePoint.isAsciiDigit body
    let (fraction, rest) := match rest with
      | .scalar '.' :: rest => Digits.run CodePoint.isAsciiDigit rest
      | rest => ([], rest)
    if whole.isEmpty ∧ fraction.isEmpty then none
    else (exponent? rest).map (Digits.float negative whole fraction)

example : int? " +1_000 " = some 1000 ∧ int? "1__0" = none ∧ int? "8٠" = some 80 := by
  decide +kernel

end Arguments

end LabelPress
