import LabelPress.Text.CodePoint

/-!
# Texts

A text is a list of code points. This file holds the operations that every other part of the
library uses: literals, decimal numbers, joining and cutting, prefixes, and the order of texts
by code point. Nothing here depends on an encoding.
-/

namespace LabelPress

/-- A text: its code points in order. -/
abbrev Text := List CodePoint

namespace Text

/-- The text a string literal stands for. -/
def ofString (s : String) : Text := s.toList.map .scalar

instance : Coe String Text := ⟨ofString⟩

/-- A text of one code point. -/
def single (c : CodePoint) : Text := [c]

/-- A text that is left out where a condition fails. -/
def when (p : Prop) [Decidable p] (t : Text) : Text := if p then t else []

/-- The decimal digits of a natural number, without leading zeros. -/
def ofNat (n : Nat) : Text := (Nat.toDigits 10 n).map .scalar

/-- The decimal digits of a whole number, after a minus sign where it is negative. -/
def ofInt : Int → Text
  | .ofNat n => ofNat n
  | .negSucc n => "-" ++ ofNat (n + 1)

/-- A natural number in decimal, filled up with zeros on the left to a least width. -/
def padded (width n : Nat) : Text :=
  let digits := ofNat n
  List.replicate (width - digits.length) (.scalar '0') ++ digits

/-- The digits of a number below `16 ^ width`, in lower-case hexadecimal. -/
def hex : (width n : Nat) → Text
  | 0, _ => []
  | width + 1, n => hex width (n / 16) ++ [.scalar (Nat.digitChar (n % 16))]

/-- Texts put together with a separator between each two. -/
def join (separator : Text) : List Text → Text
  | [] => []
  | [t] => t
  | t :: ts => t ++ separator ++ join separator ts

/-- Cuts a text at every occurrence of a code point, which is dropped; `n` occurrences give
`n + 1` pieces. -/
def splitOn (c : CodePoint) : Text → List Text
  | [] => [[]]
  | d :: t =>
    if d = c then [] :: splitOn c t
    else match splitOn c t with
      | [] => [[d]]
      | piece :: pieces => (d :: piece) :: pieces

/-- The pieces of a text between line feeds. -/
def lines (t : Text) : List Text := splitOn '\n' t

/-- What follows a prefix, where a text starts with it. -/
def dropPrefix? : (start t : Text) → Option Text
  | [], t => some t
  | _ :: _, [] => none
  | c :: start, d :: t => if c = d then dropPrefix? start t else none

/-- Whether a text starts with another. -/
def startsWith (t start : Text) : Bool := (dropPrefix? start t).isSome

/-- Whether a text holds a code point. -/
def has (t : Text) (c : CodePoint) : Bool := t.any (· == c)

/-- A text without the code points of a class at either end. -/
def trim (drop : CodePoint → Bool) (t : Text) : Text :=
  ((t.dropWhile drop).reverse.dropWhile drop).reverse

/-- A text without the code points of a class at its end. -/
def trimEnd (drop : CodePoint → Bool) (t : Text) : Text :=
  (t.reverse.dropWhile drop).reverse

/-- The order of texts by code point, a prefix coming first. -/
def le : Text → Text → Bool
  | [], _ => true
  | _ :: _, [] => false
  | c :: s, d :: t => if c = d then le s t else c.value ≤ d.value

/-- A text with each return and each return before a line feed made one line feed, as files are
read. -/
def foldNewlines : Text → Text
  | [] => []
  | .scalar '\r' :: .scalar '\n' :: t => .scalar '\n' :: foldNewlines t
  | c :: t => (if c = .scalar '\r' then .scalar '\n' else c) :: foldNewlines t

/-- A text with ASCII capitals made small. -/
def toAsciiLower (t : Text) : Text := t.map CodePoint.toAsciiLower

/-- A text with small ASCII letters made capitals. -/
def toAsciiUpper (t : Text) : Text := t.map CodePoint.toAsciiUpper

/-- The number a run of ASCII digits writes in a base up to 16, most significant digit first. -/
def toNatBase? (base : Nat) (t : Text) : Option Nat :=
  t.foldlM (fun acc c => c.hexDigit?.bind fun d =>
    if d < base then some (acc * base + d) else none) 0

/-- The number that a text of ASCII decimal digits writes; the empty text writes none. -/
def toNat? (t : Text) : Option Nat := if t.isEmpty then none else toNatBase? 10 t

/-! ## Laws of cutting and joining -/

/-- A prefix dropped is a prefix that was there. -/
theorem dropPrefix?_eq_some_iff {start t rest : Text} :
    dropPrefix? start t = some rest ↔ t = start ++ rest := by
  induction start generalizing t with
  | nil => simp [dropPrefix?, eq_comm]
  | cons c start ih =>
    cases t with
    | nil => simp [dropPrefix?]
    | cons d t =>
      by_cases h : c = d
      · simp [dropPrefix?, h, ih]
      · simp [dropPrefix?, h, Ne.symm h]

theorem splitOn_ne_nil (c : CodePoint) (t : Text) : splitOn c t ≠ [] := by
  cases t with
  | nil => simp [splitOn]
  | cons d t =>
    simp only [splitOn]
    split
    · simp
    · split <;> simp

/-- Joining the pieces with the code point they were cut at gives the text back. -/
theorem join_splitOn (c : CodePoint) (t : Text) : join [c] (splitOn c t) = t := by
  induction t with
  | nil => rfl
  | cons d t ih =>
    simp only [splitOn]
    split
    · next h =>
      cases hs : splitOn c t with
      | nil => exact absurd hs (splitOn_ne_nil c t)
      | cons p ps => rw [hs] at ih; simp [join, ih, h]
    · cases hs : splitOn c t with
      | nil => exact absurd hs (splitOn_ne_nil c t)
      | cons p ps =>
        rw [hs] at ih
        cases ps with
        | nil => simpa [join] using ih
        | cons q qs => simp only [join, List.cons_append, List.append_assoc] at ih ⊢; rw [ih]

end Text

end LabelPress
