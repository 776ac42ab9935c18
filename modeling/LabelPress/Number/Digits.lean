import LabelPress.Number.Binary64

/-!
# Numbers from their digits

What data texts, settings texts and command lines share in reading numbers: the value of a run of
digits, a floating-point number from the digits around its point, and the limit to the length of
whole numbers, which holds in writing them as well.
-/

namespace LabelPress

namespace Digits

/-- The most digits that a whole number may have. -/
def limit : Nat := 4300

/-- The wording of a whole number having too many digits to be read. -/
def limitMessage (count : Nat) : Text :=
  "Exceeds the limit (" ++ Text.ofNat limit
    ++ " digits) for integer string conversion: value has " ++ Text.ofNat count
    ++ " digits; use sys.set_int_max_str_digits() to increase the limit"

/-- Whether a whole number has no more digits than it may have. -/
def fits (n : Int) : Bool := n.natAbs < Nat.pow 10 limit

/-- The wording of a whole number being too long to be written. -/
def writeLimitMessage : Text :=
  "Exceeds the limit (" ++ Text.ofNat limit
    ++ " digits) for integer string conversion; use sys.set_int_max_str_digits() to increase the "
    ++ "limit"

/-- The digits at the front of a text, of a class, with single underscores between them. What comes
back is the digits without the underscores, and what follows. -/
def run (isDigit : CodePoint → Bool) : Text → Text × Text
  | [] => ([], [])
  | [c] => if isDigit c then ([c], []) else ([], [c])
  | c :: d :: rest =>
    if !isDigit c then ([], c :: d :: rest)
    else if d = .scalar '_' ∧ rest.head?.any isDigit then
      let (digits, rest) := run isDigit rest
      (c :: digits, rest)
    else
      let (digits, rest) := run isDigit (d :: rest)
      (c :: digits, rest)

/-- A sign at the front of a text, and what follows it. -/
def sign (t : Text) : Bool × Text :=
  match t with
  | .scalar '-' :: t => (true, t)
  | .scalar '+' :: t => (false, t)
  | t => (false, t)

/-- The number that a text of decimal digits writes. -/
def value (t : Text) : Nat := (Text.toNatBase? 10 t).getD 0

/-- A whole number with a sign. -/
def signed (negative : Bool) (n : Nat) : Int := if negative then -(n : Int) else n

/-- The floating-point number of the digits before and after a point and an exponent. -/
def float (negative : Bool) (whole fraction : Text) (exponent : Int) : Binary64 :=
  .ofDecimal negative (value (whole ++ fraction)) (exponent - fraction.length)

end Digits

end LabelPress
