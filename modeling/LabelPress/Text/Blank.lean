import LabelPress.Text.Printable

/-!
# Blanks

The code points that count as white space at the ends of a text: the ASCII blanks and separators,
next line, and every space and separator of the character database.
-/

namespace LabelPress

namespace CodePoint

/-- The closed ranges of the blanks. -/
def blankRanges : List (Nat × Nat) := [
  (0x9, 0xD), (0x1C, 0x20), (0x85, 0x85), (0xA0, 0xA0), (0x1680, 0x1680), (0x2000, 0x200A),
  (0x2028, 0x2029), (0x202F, 0x202F), (0x205F, 0x205F), (0x3000, 0x3000)]

/-- Whether a code point is white space. -/
def isBlank (c : CodePoint) : Bool := inRanges c.value blankRanges

/-- Every character that core calls white space is a blank. -/
theorem isBlank_of_isWhitespace {c : Char} (h : c.isWhitespace) : isBlank c := by
  simp only [Char.isWhitespace, Bool.or_eq_true, decide_eq_true_eq] at h
  rcases h with ((rfl | rfl) | rfl) | rfl <;> decide

end CodePoint

/-- A text without the blanks at its ends. -/
def Text.strip (t : Text) : Text := t.trim CodePoint.isBlank

end LabelPress
