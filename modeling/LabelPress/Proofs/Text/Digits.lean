import LabelPress.Calendar.Iso
import LabelPress.Proofs.Text.Ascii
import LabelPress.Text.Digit

/-!
# Decimal digits

Numbers below a hundred, which are all that a clock or a calendar page shows, have one or two digits,
and reading the digits gives the number back. Of longer numbers it is only said that nothing but
digits is in them.
-/

namespace LabelPress

namespace CodePoint

/-- The digit of a number below ten. -/
def ofDigit (d : Nat) : CodePoint := .scalar (Nat.digitChar d)

/-- **A digit is read as the number that it is written for.** -/
theorem digit?_eq_some_iff {c : CodePoint} {d : Nat} :
    c.digit? = some d ↔ d < 10 ∧ c = ofDigit d := by
  cases c with
  | lone half => simp [digit?, ofDigit]
  | scalar c =>
    simp only [digit?, ofDigit, scalar.injEq, Char.le_def, UInt32.le_iff_toNat_le]
    change (if 48 ≤ c.toNat ∧ c.toNat ≤ 57 then some (c.toNat - 48) else none) = some d ↔ _
    constructor
    · intro h
      split at h
      next hrange =>
        obtain rfl := Option.some.inj h
        refine ⟨by omega, Char.toNat_inj.1 ?_⟩
        rw [Nat.toNat_digitChar_of_lt_ten (by omega)]
        omega
      next => cases h
    · rintro ⟨hd, rfl⟩
      rw [Nat.toNat_digitChar_of_lt_ten hd, if_pos (by omega), Nat.add_sub_cancel_left]

theorem digit?_ofDigit {d : Nat} (h : d < 10) : (ofDigit d).digit? = some d :=
  digit?_eq_some_iff.2 ⟨h, rfl⟩

/-- In ASCII there are no digits but the decimal ones. -/
theorem isDigit_of_lt {c : CodePoint} (h : c.value < 128) : c.isDigit = c.isAsciiDigit := by
  refine of_forall_ascii (p := fun c => c.isDigit = c.isAsciiDigit) ?_ h
  decide +kernel

end CodePoint

namespace Text

theorem isAsciiDigit_of_mem_ofNat {n : Nat} {c : CodePoint} (h : c ∈ ofNat n) :
    c.isAsciiDigit = true := by
  obtain ⟨d, hd, rfl⟩ := List.mem_map.1 h
  have hdigit := Nat.isDigit_of_mem_toDigits (by decide) (by decide) hd
  simp only [Char.isDigit, Bool.and_eq_true, decide_eq_true_eq] at hdigit
  simp only [CodePoint.isAsciiDigit, CodePoint.digit?, Char.le_def]
  rw [if_pos hdigit]
  rfl

theorem isAsciiDigit_of_mem_padded {width n : Nat} {c : CodePoint} (h : c ∈ padded width n) :
    c.isAsciiDigit = true := by
  rcases List.mem_append.1 h with hzero | hdigit
  · obtain rfl := (List.mem_replicate.1 hzero).2
    rfl
  · exact isAsciiDigit_of_mem_ofNat hdigit

/-- What is no digit is in no number. -/
theorem not_mem_padded {c : CodePoint} (hc : c.isAsciiDigit = false) (width n : Nat) :
    c ∉ padded width n := fun h => by
  rw [isAsciiDigit_of_mem_padded h] at hc
  cases hc

theorem not_mem_ofNat {c : CodePoint} (hc : c.isAsciiDigit = false) (n : Nat) : c ∉ ofNat n :=
  fun h => by
    rw [isAsciiDigit_of_mem_ofNat h] at hc
    cases hc

/-- In a whole number there is nothing but digits and the sign. -/
theorem not_mem_ofInt {c : CodePoint} (hc : c.isAsciiDigit = false) (hsign : c ≠ .scalar '-')
    (n : Int) : c ∉ ofInt n := by
  cases n with
  | ofNat n => exact not_mem_ofNat hc n
  | negSucc n =>
    intro h
    rcases List.mem_append.1 h with hs | hd
    · exact hsign (List.mem_singleton.1 hs)
    · exact not_mem_ofNat hc (n + 1) hd

/-! ## Numbers of one and two digits -/

theorem ofNat_of_lt_ten {n : Nat} (h : n < 10) : ofNat n = [.ofDigit n] := by
  rw [ofNat, Nat.toDigits_of_lt_base h]
  rfl

theorem ofNat_of_ten_le {n : Nat} (h : 10 ≤ n) (hn : n < 100) :
    ofNat n = [.ofDigit (n / 10), .ofDigit (n % 10)] := by
  rw [ofNat, Nat.toDigits_of_base_le (by decide) h,
    Nat.toDigits_of_lt_base (by omega : n / 10 < 10)]
  rfl

theorem padded_two {n : Nat} (h : n < 100) :
    padded 2 n = [.ofDigit (n / 10), .ofDigit (n % 10)] := by
  rcases Nat.lt_or_ge n 10 with hn | hn
  · simp only [padded, ofNat_of_lt_ten hn, Nat.div_eq_of_lt hn, Nat.mod_eq_of_lt hn]
    rfl
  · simp only [padded, ofNat_of_ten_le hn h]
    rfl

end Text

namespace Iso

/-- **Two digits are read as the number that they were written for.** -/
theorem twoDigits?_padded {n : Nat} (h : n < 100) (rest : Text) :
    twoDigits? (Text.padded 2 n ++ rest) = some (n, rest) := by
  have hhigh : (CodePoint.ofDigit (n / 10)).digit? = some (n / 10) :=
    CodePoint.digit?_ofDigit (by omega)
  have hlow : (CodePoint.ofDigit (n % 10)).digit? = some (n % 10) :=
    CodePoint.digit?_ofDigit (by omega)
  have hn : 10 * (n / 10) + n % 10 = n := by omega
  simp [Text.padded_two h, twoDigits?, hhigh, hlow, hn]

end Iso

end LabelPress
