import LabelPress.Text.Case.Upper

/-!
# ASCII code points

What is said of all 128 of them is found by going through them, and past the last one there are neither
hexadecimal digits nor letters with a capital in ASCII. So of a text in ASCII the upper case is the one of
ASCII, however large the table is that gives it.
-/

namespace LabelPress

namespace CodePoint

variable {c : CodePoint}

/-- **What is so of each of the 128** is so of every code point of ASCII. -/
theorem of_forall_ascii {p : CodePoint → Prop} (h : ∀ n : Fin 128, p (.scalar (Char.ofNat n)))
    (hc : c.value < 128) : p c := by
  cases c with
  | lone half =>
    simp only [value] at hc
    omega
  | scalar x =>
    have hx := h ⟨x.toNat, hc⟩
    rwa [Char.ofNat_toNat] at hx

/-- The ASCII code points, and those above them. -/
theorem forall_of_ascii {p : CodePoint → Prop} (h : ∀ n : Fin 128, p (.scalar (Char.ofNat n)))
    (habove : ∀ c : CodePoint, 128 ≤ c.value → p c) (c : CodePoint) : p c := by
  rcases Nat.lt_or_ge c.value 128 with hlt | hge
  · exact of_forall_ascii h hlt
  · exact habove c hge

theorem toAsciiUpper_of_le (h : 128 ≤ c.value) : c.toAsciiUpper = c := by
  cases c with
  | lone half => rfl
  | scalar x =>
    have hx : 128 ≤ x.toNat := h
    refine congrArg scalar (if_neg ?_)
    rintro ⟨-, hle⟩
    exact absurd (Nat.le_trans hx (UInt32.le_iff_toNat_le.1 (Char.le_def.1 hle))) (by decide)

theorem hexDigit?_of_le (h : 128 ≤ c.value) : c.hexDigit? = none := by
  cases c with
  | lone half => rfl
  | scalar x =>
    have hx : 128 ≤ x.toNat := h
    have hlt {top : Char} (htop : top.toNat < 128) : ¬ x ≤ top := fun hle =>
      absurd (Nat.le_trans hx (UInt32.le_iff_toNat_le.1 (Char.le_def.1 hle))) (Nat.not_le.2 htop)
    rw [hexDigit?, if_neg fun h => hlt (by decide) h.2, if_neg fun h => hlt (by decide) h.2,
      if_neg fun h => hlt (by decide) h.2]

/-- A capital is its own capital. -/
theorem toAsciiUpper_toAsciiUpper (c : CodePoint) :
    c.toAsciiUpper.toAsciiUpper = c.toAsciiUpper := by
  refine forall_of_ascii (p := fun c => c.toAsciiUpper.toAsciiUpper = c.toAsciiUpper) ?_ ?_ c
  · decide +kernel
  · intro c hc
    rw [toAsciiUpper_of_le hc, toAsciiUpper_of_le hc]

/-- A hexadecimal digit has the same value in either case. -/
theorem hexDigit?_toAsciiUpper (c : CodePoint) : c.toAsciiUpper.hexDigit? = c.hexDigit? := by
  refine forall_of_ascii (p := fun c => c.toAsciiUpper.hexDigit? = c.hexDigit?) ?_ ?_ c
  · decide +kernel
  · intro c hc
    rw [toAsciiUpper_of_le hc]

end CodePoint

/-- **The upper case of a text in ASCII** has its small letters made capitals, and nothing else. -/
theorem Text.toUpper_of_ascii {t : Text} (h : ∀ c ∈ t, c.value < 128) :
    t.toUpper = t.toAsciiUpper := by
  have hmap : ∀ n : Fin 128, upperTable.map (.scalar (Char.ofNat n)) =
      [(CodePoint.scalar (Char.ofNat n)).toAsciiUpper] := by decide +kernel
  induction t with
  | nil => rfl
  | cons c t ih =>
    have hc : upperTable.map c = [c.toAsciiUpper] :=
      CodePoint.of_forall_ascii (p := fun c => upperTable.map c = [c.toAsciiUpper]) hmap (h c (.head _))
    have ht : Text.toUpper t = Text.toAsciiUpper t := ih fun d hd => h d (.tail _ hd)
    calc Text.toUpper (c :: t) = upperTable.map c ++ Text.toUpper t := rfl
      _ = c.toAsciiUpper :: Text.toAsciiUpper t := by rw [hc, ht]; rfl
      _ = Text.toAsciiUpper (c :: t) := rfl

end LabelPress
