import LabelPress.Number.Binary64

/-!
# Whole numbers and binary numbers

Where the two meet. A binary number without a fraction compares with whole numbers as the whole
number that it is. And a whole number has a nearest binary one as long as it lies below `tooLarge`,
halfway between the largest binary number and the power of two after it (`ofInt?_eq_none_iff`).
-/

namespace LabelPress

namespace Binary64

/-! ## Comparisons -/

theorem scale_snd_pos {n d : Nat} (hd : 0 < d) (e : Int) : 0 < (scale n d e).2 := by
  cases e with
  | ofNat e => exact Nat.mul_pos hd (Nat.pow_pos (by decide))
  | negSucc e => exact hd

variable {x : Binary64} {n bound : Int}

/-- A binary number that is a whole one is a finite fraction that comes out even. -/
theorem exists_ratio_of_toInt? (h : x.toInt? = some n) :
    ∃ negative m e, x = .finite negative m e ∧
      ∃ d : Nat, 0 < d ∧ x.toRatio? = some (n * d, d) := by
  obtain ⟨⟨m, d⟩, hratio, hwhole⟩ := Option.bind_eq_some_iff.1 h
  dsimp only at hwhole
  split at hwhole
  next hdvd =>
    obtain rfl := Option.some.inj hwhole
    cases x with
    | finite negative mantissa e =>
      refine ⟨negative, mantissa, e, rfl, d, ?_, ?_⟩
      · obtain ⟨-, rfl⟩ := Prod.mk.inj (Option.some.inj hratio)
        exact scale_snd_pos Nat.one_pos _
      · rw [hratio, Int.ediv_mul_cancel (Int.dvd_of_emod_eq_zero hdvd)]
    | infinite _ => cases hratio
    | nan => cases hratio
  next => cases hwhole

/-- It is below a bound if the whole number is, -/
theorem ltInt_iff (h : x.toInt? = some n) : x.ltInt bound = true ↔ n < bound := by
  obtain ⟨negative, m, e, rfl, d, hd, hratio⟩ := exists_ratio_of_toInt? h
  simp only [ltInt, hratio, Option.any_some, decide_eq_true_eq]
  exact Int.mul_lt_mul_right (Int.natCast_pos.2 hd)

/-- and above one if that is. -/
theorem gtInt_iff (h : x.toInt? = some n) : x.gtInt bound = true ↔ bound < n := by
  obtain ⟨negative, m, e, rfl, d, hd, hratio⟩ := exists_ratio_of_toInt? h
  simp only [gtInt, hratio, Option.any_some, decide_eq_true_eq]
  exact Int.mul_lt_mul_right (Int.natCast_pos.2 hd)

/-- A number that is not at most a bound is above it, unless it is none. -/
theorem leInt_eq_false_iff : x.leInt bound = false ↔ x = .nan ∨ x.gtInt bound = true := by
  cases x with
  | finite negative m e => simp [leInt, gtInt, toRatio?]
  | infinite negative => cases negative <;> simp [leInt, gtInt]
  | nan => simp [leInt]

/-- A finite number without a sign is above zero, unless its digits are zero. -/
theorem gtInt_zero_of_finite {m : Nat} (hm : m ≠ 0) (e : Int) :
    (Binary64.finite false m e).gtInt 0 = true := by
  have hpos : 0 < m := Nat.pos_of_ne_zero hm
  simp only [gtInt, toRatio?, Option.any_some, Int.zero_mul, decide_eq_true_eq, Bool.false_eq_true,
    if_false]
  cases -e with
  | ofNat k => exact Int.natCast_pos.2 hpos
  | negSucc k => exact Int.natCast_pos.2 (Nat.mul_pos hpos (Nat.two_pow_pos (k + 1)))

/-! ## Rounding -/

/-- Rounding comes to an even number from halfway to it on. -/
theorem le_roundRatio_iff {n d k : Nat} (hd : 0 < d) (hpos : 0 < k) (heven : k % 2 = 0) :
    k ≤ roundRatio n d ↔ (2 * k - 1) * d ≤ 2 * n := by
  have hn : d * (n / d) + n % d = n := Nat.div_add_mod n d
  have hr : n % d < d := Nat.mod_lt n hd
  have hbound : (2 * k - 1) * d = 2 * (d * k) - d := by
    rw [Nat.sub_mul, Nat.one_mul, Nat.mul_assoc, Nat.mul_comm k]
  unfold roundRatio
  dsimp only
  generalize n / d = q at *
  generalize n % d = r at *
  rcases Nat.lt_trichotomy (q + 1) k with hlt | rfl | hgt
  · have hmul : d * (q + 2) ≤ d * k := Nat.mul_le_mul_left d hlt
    rw [Nat.mul_add] at hmul
    exact iff_of_false (by split <;> omega) (by omega)
  · have hmul : d * (q + 1) = d * q + d := Nat.mul_succ d q
    split <;> omega
  · have hmul : d * k ≤ d * q := Nat.mul_le_mul_left d (Nat.le_of_lt_succ hgt)
    exact iff_of_true (by split <;> omega) (by omega)

theorem roundRatio_le (n d : Nat) : roundRatio n d ≤ n / d + 1 := by
  unfold roundRatio
  dsimp only
  split <;> omega

theorem le_roundRatio (n d : Nat) : n / d ≤ roundRatio n d := by
  unfold roundRatio
  dsimp only
  split <;> omega

/-- The power of two by which a fraction is divided so that 53 binary digits are left of it. -/
def power (numerator denominator : Nat) : Int :=
  let guess : Int := max ((numerator.log2 : Int) - denominator.log2 - 53) (-1074)
  let (n, d) := scale numerator denominator guess
  if n / d < Nat.pow 2 53 then guess else guess + 1

/-- What is left of it, rounded. -/
def rounded (numerator denominator : Nat) : Nat :=
  let (n, d) := scale numerator denominator (power numerator denominator)
  roundRatio n d

/-- The digits and the power of two, once rounding has carried over into one more digit if it does. -/
def carried (numerator denominator : Nat) : Nat × Int :=
  if rounded numerator denominator = Nat.pow 2 53 then
    (Nat.pow 2 52, power numerator denominator + 1)
  else (rounded numerator denominator, power numerator denominator)

theorem ofRatio_eq (negative : Bool) {n d : Nat} (hn : n ≠ 0) :
    ofRatio negative n d =
      if 971 < (carried n d).2 then .infinite negative
      else .finite negative (carried n d).1 (carried n d).2 := by
  unfold ofRatio
  rw [if_neg hn]
  rfl

/-- A fraction for which the power of two is too large then has no nearest binary number. -/
theorem ofRatio_eq_infinite_iff (negative : Bool) {n d : Nat} (hn : n ≠ 0) :
    (∃ b, ofRatio negative n d = .infinite b) ↔
      971 < if rounded n d = Nat.pow 2 53 then power n d + 1 else power n d := by
  have hpower : (carried n d).2 =
      if rounded n d = Nat.pow 2 53 then power n d + 1 else power n d := by
    unfold carried
    split <;> rfl
  rw [ofRatio_eq negative hn, ← hpower]
  split <;> simp_all

/-! ## Whole numbers that are too large -/

/-- Half a step before the power of two that has `k + 55` binary digits. A step is the distance of
two binary numbers there. -/
def halfway (k : Nat) : Nat := Nat.pow 2 (k + 54) - Nat.pow 2 k

theorem power_one_le (n : Nat) : power n 1 ≤ (n.log2 : Int) - 52 := by
  have hone : Nat.log2 1 = 0 := by decide
  unfold power
  dsimp only
  rw [hone]
  split <;> omega

/-- Of a whole number that is not zero something is left. -/
theorem rounded_one_pos {n : Nat} (hn : n ≠ 0) : 0 < rounded n 1 := by
  have hpower := power_one_le n
  unfold rounded
  cases h : power n 1 with
  | ofNat e =>
    rw [h, Int.ofNat_eq_natCast] at hpower
    have hle : 2 ^ e ≤ n :=
      Nat.le_trans (Nat.pow_le_pow_right (by decide) (by omega)) (Nat.log2_self_le hn)
    have hquotient : 0 < n / (1 * 2 ^ e) := by
      rw [Nat.one_mul]
      exact Nat.div_pos hle (Nat.two_pow_pos e)
    exact Nat.lt_of_lt_of_le hquotient (le_roundRatio _ _)
  | negSucc e =>
    have hquotient : 0 < n * 2 ^ (e + 1) / 1 := by
      rw [Nat.div_one]
      exact Nat.mul_pos (Nat.pos_of_ne_zero hn) (Nat.two_pow_pos (e + 1))
    exact Nat.lt_of_lt_of_le hquotient (le_roundRatio _ _)

section digits

variable {n k : Nat} (h : n.log2 = 53 + k)

include h

theorem ne_zero_of_log2 : n ≠ 0 := by
  rintro rfl
  have hzero : Nat.log2 0 = 0 := by decide
  omega

/-- Of a whole number of more than 53 binary digits, the others are left out. -/
theorem power_one_eq : power n 1 = Int.ofNat (k + 1) := by
  have hone : Nat.log2 1 = 0 := by decide
  have hguess : max ((n.log2 : Int) - (Nat.log2 1 : Nat) - 53) (-1074) = Int.ofNat k := by
    rw [hone, h, Int.max_eq_left (by omega), Int.ofNat_eq_natCast]
    omega
  have hdigits : 2 ^ 53 ≤ n / (1 * 2 ^ k) := by
    rw [Nat.one_mul, Nat.le_div_iff_mul_le (Nat.pow_pos (by decide)), ← Nat.pow_add, ← h]
    exact Nat.log2_self_le (ne_zero_of_log2 h)
  unfold power
  dsimp only
  rw [hguess]
  exact if_neg (Nat.not_lt.2 hdigits)

theorem rounded_one_eq : rounded n 1 = roundRatio n (Nat.pow 2 (k + 1)) := by
  unfold rounded
  rw [power_one_eq h]
  exact congrArg (roundRatio n) (Nat.one_mul _)

/-- It is rounded to the next power of two from half a step before that on. -/
theorem rounded_one_eq_iff : rounded n 1 = Nat.pow 2 53 ↔ halfway k ≤ n := by
  have hlt : n < 2 ^ (53 + k + 1) := h ▸ Nat.lt_log2_self
  have hpos : 0 < 2 ^ (k + 1) := Nat.two_pow_pos (k + 1)
  have hstep : 2 ^ (k + 1) = 2 * 2 ^ k := Nat.pow_succ'
  have hnext : 2 ^ (k + 54) = 2 ^ 54 * 2 ^ k := by rw [Nat.add_comm, Nat.pow_add]
  have hnext' : 2 ^ (53 + k + 1) = 2 ^ 54 * 2 ^ k := by
    rw [← hnext, Nat.add_right_comm, Nat.add_comm k]
  have hquotient : n / 2 ^ (k + 1) < 2 ^ 53 := by
    rw [Nat.div_lt_iff_lt_mul hpos]
    omega
  have hle : rounded n 1 ≤ 2 ^ 53 := by
    rw [rounded_one_eq h]
    exact Nat.le_trans (roundRatio_le _ _) hquotient
  have hround : 2 ^ 53 ≤ rounded n 1 ↔ (2 * 2 ^ 53 - 1) * 2 ^ (k + 1) ≤ 2 * n := by
    rw [rounded_one_eq h]
    exact le_roundRatio_iff hpos (by decide) (by decide)
  rw [halfway, Nat.pow_eq, Nat.pow_eq, Nat.pow_eq]
  omega

end digits

/-- Whole numbers are infinite from half a step before `2 ^ 1024` on. -/
theorem ofRatio_one_eq_infinite_iff (negative : Bool) {n k : Nat} (hk : k = 970) :
    (∃ b, ofRatio negative n 1 = .infinite b) ↔ halfway k ≤ n := by
  -- The exponent goes by a name, so that no power of it is ever worked out.
  have hpos : 0 < 2 ^ k := Nat.two_pow_pos k
  have hnext : 2 ^ (k + 54) = 2 ^ k * 2 ^ 54 := Nat.pow_add 2 k 54
  have hhalfway : halfway k = 2 ^ (k + 54) - 2 ^ k := rfl
  by_cases hn : n = 0
  · subst hn
    refine iff_of_false (fun hb => ?_) (by omega)
    obtain ⟨b, hb⟩ := hb
    cases hb
  rw [ofRatio_eq_infinite_iff negative hn]
  rcases Nat.lt_trichotomy n.log2 (k + 53) with hlt | heq | hgt
  · have hpower := power_one_le n
    have hbound : n < 2 ^ (k + 53) := (Nat.log2_lt hn).1 hlt
    rw [Nat.pow_add] at hbound
    refine iff_of_false ?_ (by omega)
    split <;> omega
  · have hdigits : n.log2 = 53 + k := by omega
    rw [← rounded_one_eq_iff hdigits, power_one_eq hdigits, Int.ofNat_eq_natCast]
    by_cases hcarry : rounded n 1 = Nat.pow 2 53
    · rw [if_pos hcarry]
      exact iff_of_true (by omega) hcarry
    · rw [if_neg hcarry]
      exact iff_of_false (by omega) hcarry
  · obtain ⟨j, hj⟩ := Nat.exists_eq_add_of_lt hgt
    have hdigits : n.log2 = 53 + (k + j + 1) := by omega
    have hbound : 2 ^ (k + 54) ≤ n := (Nat.le_log2 hn).1 (by omega)
    rw [power_one_eq hdigits, Int.ofNat_eq_natCast]
    refine iff_of_true ?_ (by omega)
    split <;> omega

/-- The least whole number that is too large for every binary one, `2 ^ 1024 - 2 ^ 970`. -/
def tooLarge : Nat := halfway 970

/-- **A whole number has no nearest binary one from `tooLarge` on.** -/
theorem ofInt?_eq_none_iff {n : Int} : ofInt? n = none ↔ tooLarge ≤ n.natAbs := by
  rw [tooLarge, ← ofRatio_one_eq_infinite_iff (n < 0) rfl]
  unfold ofInt?
  split
  next b h => exact iff_of_true rfl ⟨b, h⟩
  next h => exact iff_of_false nofun fun ⟨b, hb⟩ => h b hb

/-- A whole number that is not zero, and not too large, keeps some digits. -/
theorem ofRatio_one_cases (negative : Bool) {n : Nat} (hn : n ≠ 0) :
    ofRatio negative n 1 = .infinite negative ∨
      ∃ m e, m ≠ 0 ∧ ofRatio negative n 1 = .finite negative m e := by
  have hdigits : (carried n 1).1 ≠ 0 := by
    unfold carried
    split
    · exact Nat.ne_of_gt (Nat.two_pow_pos 52)
    · exact Nat.ne_of_gt (rounded_one_pos hn)
  rw [ofRatio_eq negative hn]
  by_cases hlarge : 971 < (carried n 1).2
  · exact .inl (if_pos hlarge)
  · exact .inr ⟨_, _, hdigits, if_neg hlarge⟩

/-- **The binary number nearest to a whole one above zero** is finite and above zero. -/
theorem isFinite_and_gtInt_of_ofInt? {n : Int} {x : Binary64} (h : ofInt? n = some x) (hn : 0 < n) :
    x.isFinite = true ∧ x.gtInt 0 = true := by
  have habs : n.natAbs ≠ 0 := by omega
  have hsign : decide (n < 0) = false := by simpa using Int.le_of_lt hn
  unfold ofInt? at h
  rw [hsign] at h
  rcases ofRatio_one_cases false habs with hlarge | ⟨m, e, hm, hfinite⟩
  · rw [hlarge] at h
    cases h
  · rw [hfinite] at h
    obtain rfl := Option.some.inj h
    exact ⟨rfl, gtInt_zero_of_finite hm e⟩

end Binary64

end LabelPress
