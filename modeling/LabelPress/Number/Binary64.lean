import LabelPress.Text.Basic

/-!
# Binary floating-point numbers

Numbers of 64 bits with 53 bits of precision, as exact data: a finite one is a whole number times
a power of two. Nothing here adds or multiplies; numbers are read, rounded to the nearest,
compared with whole numbers and written out.
-/

namespace LabelPress

/-- A binary floating-point number. A finite one is `± mantissa * 2 ^ exponent`, its mantissa
below `2 ^ 53` and at least `2 ^ 52` unless the exponent is the least one, `-1074`. -/
inductive Binary64 where
  | finite (negative : Bool) (mantissa : Nat) (exponent : Int)
  | infinite (negative : Bool)
  | nan
  deriving DecidableEq, Repr

namespace Binary64

/-! ## Rounding -/

/-- The fraction `numerator / denominator` divided by `2 ^ exponent`. -/
def scale (numerator denominator : Nat) : (exponent : Int) → Nat × Nat
  | .ofNat e => (numerator, denominator * Nat.pow 2 e)
  | .negSucc e => (numerator * Nat.pow 2 (e + 1), denominator)

/-- The whole number nearest to a fraction, the even one of two. -/
def roundRatio (numerator denominator : Nat) : Nat :=
  let q := numerator / denominator
  let r := numerator % denominator
  if 2 * r < denominator ∨ (2 * r = denominator ∧ q % 2 = 0) then q else q + 1

/-- The number nearest to `± numerator / denominator`, infinite from halfway past the largest. -/
def ofRatio (negative : Bool) (numerator denominator : Nat) : Binary64 :=
  if numerator = 0 then .finite negative 0 (-1074)
  else
    let guess : Int := max ((numerator.log2 : Int) - denominator.log2 - 53) (-1074)
    let (n, d) := scale numerator denominator guess
    let exponent := if n / d < Nat.pow 2 53 then guess else guess + 1
    let (n, d) := scale numerator denominator exponent
    let mantissa := roundRatio n d
    let (mantissa, exponent) :=
      if mantissa = Nat.pow 2 53 then (Nat.pow 2 52, exponent + 1) else (mantissa, exponent)
    if 971 < exponent then .infinite negative else .finite negative mantissa exponent

/-- The number nearest to `± digits * 10 ^ exponent`. Exponents far outside the range are settled
before any power is taken. -/
def ofDecimal (negative : Bool) (digits : Nat) (exponent : Int) : Binary64 :=
  let size : Int := (Nat.toDigits 10 digits).length + exponent
  if digits = 0 ∨ size < -400 then .finite negative 0 (-1074)
  else if 400 < size then .infinite negative
  else match exponent with
    | .ofNat e => ofRatio negative (digits * Nat.pow 10 e) 1
    | .negSucc e => ofRatio negative digits (Nat.pow 10 (e + 1))

/-- The number nearest to a whole one, where that is finite. -/
def ofInt? (n : Int) : Option Binary64 :=
  match ofRatio (n < 0) n.natAbs 1 with
  | .infinite _ => none
  | x => some x

/-! ## Values -/

/-- A finite number as a fraction with a positive denominator. -/
def toRatio? : Binary64 → Option (Int × Nat)
  | .finite negative m e =>
    let (n, d) := scale m 1 (-e)
    some (if negative then -(n : Int) else n, d)
  | _ => none

/-- Whether a number is finite. -/
def isFinite : Binary64 → Bool
  | .finite .. => true
  | _ => false

/-- Whether a number is zero, of either sign. -/
def isZero : Binary64 → Bool
  | .finite _ m _ => m = 0
  | _ => false

/-- The whole number that a number is, where it has no fraction. -/
def toInt? (x : Binary64) : Option Int :=
  x.toRatio?.bind fun (n, d) => if n % d = 0 then some (n / d) else none

/-- Whether a number is below a whole one. -/
def ltInt (x : Binary64) (bound : Int) : Bool :=
  match x with
  | .nan => false
  | .infinite negative => negative
  | .finite .. => x.toRatio?.any fun (n, d) => n < bound * d

/-- Whether a number is above a whole one. -/
def gtInt (x : Binary64) (bound : Int) : Bool :=
  match x with
  | .nan => false
  | .infinite negative => !negative
  | .finite .. => x.toRatio?.any fun (n, d) => bound * d < n

/-- Whether a number is at most a whole one. -/
def leInt (x : Binary64) (bound : Int) : Bool :=
  match x with
  | .nan => false
  | .infinite negative => negative
  | .finite .. => x.toRatio?.any fun (n, d) => n ≤ bound * d

end Binary64

end LabelPress
