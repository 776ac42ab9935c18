import LabelPress.Number.Binary64

/-!
# The shortest decimals that read back

A finite number is written with the fewest significant digits that read back as itself, and of
the decimals with so many digits the nearest one. The numbers that read back as `m * 2 ^ e` form
an interval around it, its ends included when `m` is even; of a decimal grid only the two
neighbours of the number need to be looked at.
-/

namespace LabelPress

namespace Binary64

/-- The interval of the numbers that round to a positive `m * 2 ^ e`, over a common denominator:
its lower end, the number itself, its upper end, the denominator. -/
def readBack (m : Nat) (e : Int) : Nat × Nat × Nat × Nat :=
  let (n, d) := scale 1 1 (-e)
  let below := if m = Nat.pow 2 52 ∧ -1074 < e then 1 else 2
  (4 * m * n - below * n, 4 * m * n, 4 * m * n + 2 * n, 4 * d)

/-- A decimal `digits * 10 ^ exponent`. -/
structure Decimal where
  digits : Nat
  exponent : Int
  deriving DecidableEq, Repr

/-- A power of ten as a fraction. -/
def powerOfTen : Int → Nat × Nat
  | .ofNat k => (Nat.pow 10 k, 1)
  | .negSucc k => (1, Nat.pow 10 (k + 1))

/-- The neighbour of a positive number on the grid of the multiples of `10 ^ k` that reads back
as it; of two the nearer, and the even one at equal distance. -/
def onGrid? (m : Nat) (e k : Int) : Option Decimal :=
  let (low, mid, high, d) := readBack m e
  let (p, q) := powerOfTen k
  let floor := mid * q / (d * p)
  let inside (c : Nat) : Bool :=
    let v := c * d * p
    if m % 2 = 0 then low * q ≤ v && v ≤ high * q else low * q < v && v < high * q
  let down := mid * q - floor * d * p
  let up := (floor + 1) * d * p - mid * q
  let preferUp : Bool := up < down || (up = down && floor % 2 = 1)
  match inside floor, inside (floor + 1) with
  | true, true => some ⟨if preferUp then floor + 1 else floor, k⟩
  | true, false => some ⟨floor, k⟩
  | false, true => some ⟨floor + 1, k⟩
  | false, false => none

/-- How many decimal digits stand before the point of a positive number; zero or less counts the
zeros after it. -/
def pointOf (m : Nat) (e : Int) : Int :=
  let (n, d) := scale m 1 (-e)
  if d ≤ n then ((Nat.toDigits 10 (n / d)).length : Int)
  else
    let inverse := (d + n - 1) / n
    1 - ((Nat.toDigits 10 (inverse - 1)).length : Int)

/-- The first hit on the grids with `count`, `count + 1`, … digits, `tries` of them. -/
def shortestFrom (m : Nat) (e point : Int) : (tries count : Nat) → Decimal
  | 0, _ => ⟨m, 0⟩
  | tries + 1, count =>
    match onGrid? m e (point - count) with
    | some hit => hit
    | none => shortestFrom m e point tries (count + 1)

/-- A decimal without zeros at the end of its digits, up to a number of them. -/
def dropZeros : (tries : Nat) → Decimal → Decimal
  | 0, x => x
  | tries + 1, x =>
    if x.digits % 10 = 0 then dropZeros tries ⟨x.digits / 10, x.exponent + 1⟩ else x

/-- The shortest decimal that reads back as a positive `m * 2 ^ e`. Seventeen digits always
suffice. -/
def shortest (m : Nat) (e : Int) : Decimal :=
  dropZeros 17 (shortestFrom m e (pointOf m e) 17 1)

/-- Numbers are written in positional notation from `1e-4` up to below `1e16`, always with a
point, and else with one digit before the point and an exponent of a sign and at least two
digits. -/
def layOut (x : Decimal) : Text :=
  let digits := Text.ofNat x.digits
  let point : Int := digits.length + x.exponent
  let zeros (n : Int) : Text := List.replicate n.toNat (.scalar '0')
  if point ≤ -4 ∨ 16 < point then
    let e := point - 1
    digits.take 1 ++ (if digits.length = 1 then "" else ".") ++ digits.drop 1
      ++ (if e < 0 then "e-" else "e+") ++ Text.padded 2 e.natAbs
  else if point ≤ 0 then "0." ++ zeros (-point) ++ digits
  else if digits.length ≤ point then digits ++ zeros (point - digits.length) ++ ".0"
  else digits.take point.toNat ++ "." ++ digits.drop point.toNat

/-- The text of a number. -/
def toText : Binary64 → Text
  | .nan => "nan"
  | .infinite negative => if negative then "-inf" else "inf"
  | .finite negative m e =>
    (if negative then "-" else "") ++ (if m = 0 then Text.ofString "0.0" else layOut (shortest m e))

example : (ofDecimal false 1 (-1)).toText = Text.ofString "0.1" := by decide +kernel

example : (ofDecimal false 5 (-324)).toText = Text.ofString "5e-324" := by decide +kernel

example : (ofDecimal true 1 16).toText = Text.ofString "-1e+16" := by decide +kernel

end Binary64

end LabelPress
