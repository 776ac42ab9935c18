import LabelPress.Number.Shortest

/-!
# Numbers with a given number of places

A finite number is rounded to a number of decimal places, or to a number of significant digits,
and written in positional notation or with an exponent. Rounding is exact, to the nearest, and to
the even one of two.
-/

namespace LabelPress

namespace Binary64

/-- The multiple of `10 ^ k` nearest to `m * 2 ^ e`, as a multiple. -/
def onPowers (m : Nat) (e k : Int) : Nat :=
  let (n, d) := scale m 1 (-e)
  let (p, q) := powerOfTen k
  roundRatio (n * q) (d * p)

/-- Digits with a point before the last ones of them. A point after all of them is left out unless
it is to be kept. -/
def pointed (keep : Bool) (places : Nat) (digits : Text) : Text :=
  let whole := digits.length - places
  digits.take whole ++ Text.when (keep ∨ places ≠ 0) "." ++ digits.drop whole

/-- The number `m * 2 ^ e` in positional notation, with so many places after the point. -/
def positional (keep : Bool) (places : Nat) (m : Nat) (e : Int) : Text :=
  pointed keep places (Text.padded (places + 1) (onPowers m e (-places)))

/-- The number `m * 2 ^ e` to so many significant digits and one more, and the power of ten of the
first of them. -/
def significant (places : Nat) (m : Nat) (e : Int) : Nat × Int :=
  if m = 0 then (0, 0)
  else
    let power := pointOf m e - 1
    let digits := onPowers m e (power - places)
    if digits = Nat.pow 10 (places + 1) then (Nat.pow 10 places, power + 1) else (digits, power)

/-- The number `m * 2 ^ e` with one digit before the point, so many after it, and an exponent. -/
def withExponent (keep : Bool) (places : Nat) (m : Nat) (e : Int) : Text :=
  let (digits, power) := significant places m e
  pointed keep places (Text.padded (places + 1) digits)
    ++ (if power < 0 then "e-" else "e+") ++ Text.padded 2 power.natAbs

/-- Digits without zeros at the end of their fraction. -/
def trimFraction (t : Text) : Text :=
  if t.has '.' then (t.trimEnd (· = .scalar '0')).trimEnd (· = .scalar '.') else t

/-- The number `m * 2 ^ e` to so many significant digits, but one at least, with an exponent if it
is too small or too large for them. Zeros at the end of its fraction are left out unless they are
to be kept. -/
def general (keep : Bool) (count : Nat) (m : Nat) (e : Int) : Text :=
  let places := count - 1
  let trim (t : Text) : Text := if keep then t else trimFraction t
  let (_, power) := significant places m e
  if -4 ≤ power ∧ power ≤ places then trim (positional keep (places - power).toNat m e)
  else
    let t := withExponent keep places m e
    trim (t.takeWhile (· != .scalar 'e')) ++ t.dropWhile (· != .scalar 'e')

example : positional false 2 5 (-1) = Text.ofString "2.50" := by decide +kernel

example : withExponent false 1 3 10 = Text.ofString "3.1e+03" := by decide +kernel

example : general false 6 1 (-4) = Text.ofString "0.0625" := by decide +kernel

end Binary64

end LabelPress
