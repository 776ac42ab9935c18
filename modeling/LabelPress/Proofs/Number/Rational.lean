import LabelPress.Proofs.Number.Binary64
import Mathlib.Algebra.Field.Rat
import Mathlib.Data.Rat.Cast.CharZero

/-!
# The numbers that binary numbers are

A finite binary number is a rational one, a whole number times a power of two, and it is held as such
wherever it is compared: as a fraction, or as a whole number if it has no fraction. Here the two are said
to be of the same value. In particular a binary number is read as a whole one exactly if it is that number
(`toInt?_eq_some_iff`), be it zero with a sign or far past all that is counted.
-/

namespace LabelPress

namespace Binary64

variable {x : Binary64} {n : Int}

/-- The number that a finite binary number is. -/
def toRat? : Binary64 → Option ℚ
  | .finite negative m e => some ((if negative then -(m : ℚ) else m) * 2 ^ e)
  | _ => none

/-- The fraction that stands for a number is that number. -/
theorem scale_div (m : Nat) (e : Int) :
    ((scale m 1 (-e)).1 : ℚ) / (scale m 1 (-e)).2 = m * 2 ^ e := by
  cases h : -e with
  | ofNat k =>
    obtain rfl : e = -(k : Int) := by
      rw [Int.ofNat_eq_natCast] at h
      omega
    simp [scale, zpow_neg, div_eq_mul_inv]
  | negSucc k =>
    obtain rfl : e = ((k + 1 : Nat) : Int) := by omega
    rw [zpow_natCast]
    simp [scale]

/-- So is it with its sign. -/
theorem exists_ratio_of_toRat? {q : ℚ} (h : x.toRat? = some q) :
    ∃ (p : Int) (d : Nat), x.toRatio? = some (p, d) ∧ 0 < d ∧ q = p / d := by
  cases x with
  | finite negative m e =>
    refine ⟨if negative then -((scale m 1 (-e)).1 : Int) else (scale m 1 (-e)).1,
      (scale m 1 (-e)).2, rfl, scale_snd_pos Nat.one_pos (-e), ?_⟩
    rw [← Option.some.inj h]
    cases negative with
    | false => simp [scale_div]
    | true => simp [neg_div, scale_div]
  | infinite negative => cases h
  | nan => cases h

/-- **A binary number is read as the whole number that it is**, and as none if it has a fraction. -/
theorem toInt?_eq_some_iff : x.toInt? = some n ↔ x.toRat? = some (n : ℚ) := by
  constructor
  · intro h
    obtain ⟨negative, m, e, rfl, d, hd, hratio⟩ := exists_ratio_of_toInt? h
    obtain ⟨p, d', hratio', -, hq⟩ := exists_ratio_of_toRat? (x := .finite negative m e) rfl
    obtain ⟨rfl, rfl⟩ := Prod.mk.inj (Option.some.inj (hratio.symm.trans hratio'))
    have hd' : (d : ℚ) ≠ 0 := Nat.cast_ne_zero.2 (Nat.ne_of_gt hd)
    rw [toRat?, hq, Int.cast_mul, Int.cast_natCast, mul_div_cancel_right₀ _ hd']
  · intro h
    obtain ⟨p, d, hratio, hd, hq⟩ := exists_ratio_of_toRat? h
    have hd' : (d : ℚ) ≠ 0 := Nat.cast_ne_zero.2 (Nat.ne_of_gt hd)
    have hp : p = n * d := by
      rw [eq_div_iff hd'] at hq
      exact_mod_cast hq.symm
    have hzero : (d : Int) ≠ 0 := Int.natCast_ne_zero.2 (Nat.ne_of_gt hd)
    rw [toInt?, hratio, Option.bind_some]
    dsimp only
    rw [hp, if_pos (Int.mul_emod_left n d), Int.mul_ediv_cancel n hzero]

end Binary64

end LabelPress
