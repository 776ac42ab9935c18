/-!
# Code points

The unit a text is made of. Data documents may name any number below `0x110000` by an escape,
the halves of a surrogate pair among them, so a code point is a Unicode scalar value or an
unpaired half. Halves have no encoded form; that is the one way in which writing a text out
can fail.
-/

namespace LabelPress

/-- A code point: a Unicode scalar value, or one of the 2048 surrogate halves standing alone. -/
inductive CodePoint where
  /-- A Unicode scalar value. -/
  | scalar (c : Char)
  /-- The unpaired half `0xD800 + half`. -/
  | lone (half : Fin 2048)
  deriving DecidableEq, Repr

namespace CodePoint

instance : Coe Char CodePoint := ⟨.scalar⟩

/-- The number of a code point. -/
def value : CodePoint → Nat
  | .scalar c => c.toNat
  | .lone half => 0xD800 + half.val

/-- The code point of a number; numbers above the last one are read as U+FFFD. -/
def ofNat (n : Nat) : CodePoint :=
  if h : 0xD800 ≤ n ∧ n < 0xE000 then .lone ⟨n - 0xD800, by omega⟩
  else if n < 0x110000 then .scalar (Char.ofNat n)
  else .scalar (Char.ofNat 0xFFFD)

/-- Whether a code point is a first half of a surrogate pair. -/
def isHighHalf (c : CodePoint) : Bool := 0xD800 ≤ c.value && c.value < 0xDC00

/-- Whether a code point is a second half of a surrogate pair. -/
def isLowHalf (c : CodePoint) : Bool := 0xDC00 ≤ c.value && c.value < 0xE000

/-- The scalar value that two surrogate halves stand for together. -/
def joinHalves (high low : Nat) : CodePoint :=
  .ofNat (0x10000 + (high - 0xD800) * 0x400 + (low - 0xDC00))

/-- Whether a code point has an encoded form. -/
def isScalar : CodePoint → Bool
  | .scalar _ => true
  | .lone _ => false

/-- The decimal digit `0` to `9` that a code point is, in ASCII. -/
def digit? : CodePoint → Option Nat
  | .scalar c => if '0' ≤ c ∧ c ≤ '9' then some (c.toNat - '0'.toNat) else none
  | .lone _ => none

/-- Whether a code point is one of the ASCII digits. -/
def isAsciiDigit (c : CodePoint) : Bool := c.digit?.isSome

/-- The value of a hexadecimal digit, of either case. -/
def hexDigit? : CodePoint → Option Nat
  | .scalar c =>
    if '0' ≤ c ∧ c ≤ '9' then some (c.toNat - '0'.toNat)
    else if 'a' ≤ c ∧ c ≤ 'f' then some (c.toNat - 'a'.toNat + 10)
    else if 'A' ≤ c ∧ c ≤ 'F' then some (c.toNat - 'A'.toNat + 10)
    else none
  | .lone _ => none

/-- The lower case of an ASCII capital; all else stays. -/
def toAsciiLower : CodePoint → CodePoint
  | .scalar c => .scalar (if 'A' ≤ c ∧ c ≤ 'Z' then Char.ofNat (c.toNat + 32) else c)
  | .lone half => .lone half

/-- The capital of a small ASCII letter; all else stays. -/
def toAsciiUpper : CodePoint → CodePoint
  | .scalar c => .scalar (if 'a' ≤ c ∧ c ≤ 'z' then Char.ofNat (c.toNat - 32) else c)
  | .lone half => .lone half

end CodePoint

end LabelPress
