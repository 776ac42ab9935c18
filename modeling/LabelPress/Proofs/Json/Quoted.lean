import LabelPress.Json.Writer
import LabelPress.Proofs.Json.LineEnds
import LabelPress.Proofs.Text.Utf8

/-!
# Quoted texts

A text is written between quotes with an escape for whatever is not printable ASCII, in one of four
ways: as it stands, with a letter, with its number, or with the numbers of two halves. In whichever way
a code point is written, nothing but printable ASCII is in it, and it is read as itself in front of
anything (`readsAs_escape`); only a half that stands alone might be joined to what follows it. So a
text of scalar values is read as itself from quotes (`scanText_quoted`).
-/

namespace LabelPress

namespace CodePoint

/-- Whether a code point is a character of ASCII that is printed, the space being one. -/
def IsPrintableAscii (c : CodePoint) : Prop := 0x20 ≤ c.value ∧ c.value ≤ 0x7E

instance : DecidablePred IsPrintableAscii := fun c =>
  inferInstanceAs (Decidable (0x20 ≤ c.value ∧ c.value ≤ 0x7E))

/-- A scalar value has a number outside those of the halves. -/
theorem value_of_isScalar {c : CodePoint} (h : c.isScalar = true) :
    c.value < 0xD800 ∨ 0xDFFF < c.value ∧ c.value < 0x110000 := by
  cases c with
  | lone half => cases h
  | scalar c => exact c.valid

/-- **A code point is the one with its number.** -/
theorem ofNat_value (c : CodePoint) : ofNat c.value = c := by
  cases c with
  | lone half =>
    have hrange : 0xD800 ≤ 0xD800 + half.val ∧ 0xD800 + half.val < 0xE000 := by omega
    rw [value, ofNat, dif_pos hrange]
    simp
  | scalar c =>
    have hc := value_of_isScalar (c := .scalar c) rfl
    rw [ofNat, dif_neg (by omega), if_pos (by omega), value, Char.ofNat_toNat]

/-- The half with a number. -/
theorem value_ofNat_half {n : Nat} (h : 0xD800 ≤ n ∧ n < 0xE000) : (ofNat n).value = n := by
  rw [ofNat, dif_pos h]
  exact Nat.add_sub_of_le h.1

theorem not_isHighHalf_of_isScalar {c : CodePoint} (h : c.isScalar = true) :
    c.isHighHalf = false := by
  have hc := value_of_isScalar h
  simp only [isHighHalf, Bool.and_eq_false_iff, decide_eq_false_iff_not]
  omega

end CodePoint

namespace Text

/-! ## Hexadecimal digits -/

theorem isPrintableAscii_of_mem_hex {width n : Nat} {c : CodePoint} (h : c ∈ hex width n) :
    c.IsPrintableAscii := by
  have hdigits : ∀ d < 16, (CodePoint.scalar (Nat.digitChar d)).IsPrintableAscii := by decide
  induction width generalizing n with
  | zero => cases h
  | succ width ih =>
    rcases List.mem_append.1 h with h | h
    · exact ih h
    · rw [List.mem_singleton.1 h]
      exact hdigits _ (Nat.mod_lt n (by decide))

/-- **A number is read from its hexadecimal digits** if they are enough for it. -/
theorem toNatBase?_hex {width n : Nat} (h : n < Nat.pow 16 width) :
    toNatBase? 16 (hex width n) = some n := by
  have hdigits : ∀ d < 16, (CodePoint.scalar (Nat.digitChar d)).hexDigit? = some d := by decide
  induction width generalizing n with
  | zero =>
    obtain rfl : n = 0 := Nat.lt_one_iff.1 h
    rfl
  | succ width ih =>
    have hrest : n / 16 < Nat.pow 16 width := by
      rw [Nat.div_lt_iff_lt_mul (by decide)]
      exact h
    have hlast : n % 16 < 16 := Nat.mod_lt n (by decide)
    have hread := ih hrest
    unfold toNatBase? at hread ⊢
    rw [hex, List.foldlM_append, hread]
    simp only [Option.bind_eq_bind, Option.bind_some, List.foldlM_cons, List.foldlM_nil,
      hdigits _ hlast, if_pos hlast, Option.pure_def, Nat.div_add_mod']

end Text

namespace Json

/-! ## Code points in quotes -/

/-- Whether a text is read as a code point wherever it stands between quotes: it has units of its
own, and these are joined with none that follow. -/
def ReadsAs (written : Text) (c : CodePoint) : Prop :=
  ∃ units : List Unit,
    (∀ start place rest, (scanText start place (written ++ rest)).toOption =
      (scanText start (place + written.length) rest).toOption.map fun read =>
        (units ++ read.1, written.length + read.2)) ∧
    ∀ more, joinUnits (units ++ more) = c :: joinUnits more

/-- A unit that is not an escaped first half is joined with none. -/
theorem joinUnits_cons {u : Unit} (h : u.escaped = false ∨ u.point.isHighHalf = false)
    (more : List Unit) : joinUnits (u :: more) = u.point :: joinUnits more := by
  cases more with
  | nil => rfl
  | cons v more =>
    rw [joinUnits, if_neg]
    rcases h with h | h <;> simp [h]

/-- A letter after a backslash is read as what it stands for. -/
theorem readsAs_letter {d c : CodePoint} (hd : d ≠ .scalar 'u') (h : letterEscape? d = some c) :
    ReadsAs [.scalar '\\', d] c := by
  refine ⟨[⟨false, c⟩], fun start place rest => ?_, fun more => joinUnits_cons (.inl rfl) more⟩
  rw [List.cons_append, List.cons_append, List.nil_append, scanText_escape hd, h]
  rfl

/-- What is printable, and neither a quote nor a backslash, is read as itself. -/
theorem readsAs_point {c : CodePoint} (hquote : c ≠ .scalar '"') (hescape : c ≠ .scalar '\\')
    (hc : 0x20 ≤ c.value) : ReadsAs [c] c := by
  refine ⟨[⟨false, c⟩], fun start place rest => ?_, fun more => joinUnits_cons (.inl rfl) more⟩
  rw [List.singleton_append, scanText_point hquote hescape, if_neg (Nat.not_lt.2 hc)]
  rfl

theorem length_escapeUnit (n : Nat) : (escapeUnit n).length = 6 := rfl

/-- An escaped number is read as a unit with that number. -/
theorem scanText_escapeUnit {n : Nat} (h : n < 0x10000) (start place : Nat) (rest : Text) :
    (scanText start place (escapeUnit n ++ rest)).toOption =
      (scanText start (place + 6) rest).toOption.map (prepend ⟨true, .ofNat n⟩ 6) := by
  obtain ⟨a, b, c, d, hdigits⟩ : ∃ a b c d, Text.hex 4 n = [a, b, c, d] := ⟨_, _, _, _, rfl⟩
  have hread : fourHex? a b c d = some n := by
    rw [fourHex?, ← hdigits]
    exact Text.toNatBase?_hex h
  have hwritten : escapeUnit n ++ rest = .scalar '\\' :: .scalar 'u' :: (Text.hex 4 n ++ rest) := rfl
  rw [hwritten, hdigits]
  exact (scanText_number a b c d rest).trans (by rw [hread, Option.bind_some])

/-- A scalar value below `0x10000` is read from its number, -/
theorem readsAs_unit {c : CodePoint} (hscalar : c.isScalar = true) (hc : c.value < 0x10000) :
    ReadsAs (escapeUnit c.value) c := by
  refine ⟨[⟨true, c⟩], fun start place rest => ?_, fun more => joinUnits_cons (.inr ?_) more⟩
  · rw [scanText_escapeUnit hc, CodePoint.ofNat_value]
    rfl
  · exact CodePoint.not_isHighHalf_of_isScalar hscalar

/-- and one beyond that from the numbers of its halves, which are joined again. -/
theorem readsAs_pair {c : CodePoint} (hscalar : c.isScalar = true) (hc : 0x10000 ≤ c.value) :
    ReadsAs (escapeUnit (0xD800 + (c.value - 0x10000) / 0x400) ++
      escapeUnit (0xDC00 + (c.value - 0x10000) % 0x400)) c := by
  have hrange := CodePoint.value_of_isScalar hscalar
  have hsum : (c.value - 0x10000) / 0x400 * 0x400 + (c.value - 0x10000) % 0x400 =
      c.value - 0x10000 := Nat.div_add_mod' _ _
  have hlast : (c.value - 0x10000) % 0x400 < 0x400 := Nat.mod_lt _ (by decide)
  generalize (c.value - 0x10000) / 0x400 = high at hsum
  generalize (c.value - 0x10000) % 0x400 = low at hsum hlast
  have hhigh : (CodePoint.ofNat (0xD800 + high)).value = 0xD800 + high :=
    CodePoint.value_ofNat_half (by omega)
  have hlow : (CodePoint.ofNat (0xDC00 + low)).value = 0xDC00 + low :=
    CodePoint.value_ofNat_half (by omega)
  refine ⟨[⟨true, .ofNat (0xD800 + high)⟩, ⟨true, .ofNat (0xDC00 + low)⟩],
    fun start place rest => ?_, fun more => ?_⟩
  · rw [List.append_assoc, scanText_escapeUnit (by omega), scanText_escapeUnit (by omega),
      Option.map_map]
    simp only [Function.comp_def, prepend, List.length_append, length_escapeUnit, List.cons_append,
      List.nil_append, Nat.add_assoc]
  · have hnumber : 0x10000 + (0xD800 + high - 0xD800) * 0x400 + (0xDC00 + low - 0xDC00) =
        c.value := by omega
    have hjoined : CodePoint.joinHalves (0xD800 + high) (0xDC00 + low) = c := by
      rw [CodePoint.joinHalves, hnumber, CodePoint.ofNat_value]
    have hhalves : (CodePoint.ofNat (0xD800 + high)).isHighHalf = true ∧
        (CodePoint.ofNat (0xDC00 + low)).isLowHalf = true := by
      simp only [CodePoint.isHighHalf, CodePoint.isLowHalf, hhigh, hlow, Bool.and_eq_true,
        decide_eq_true_eq]
      omega
    rw [List.cons_append, List.cons_append, List.nil_append, joinUnits,
      if_pos ⟨rfl, rfl, hhalves⟩, hhigh, hlow, hjoined]

/-- **A scalar value is read as itself** in whichever way it is written. -/
theorem readsAs_escape {c : CodePoint} (hscalar : c.isScalar = true) : ReadsAs (escape c) c := by
  unfold escape
  split_ifs with hquote hbackslash hn hr ht hf hb hprinted hsmall
  · exact readsAs_letter (by decide) (by rw [hquote]; rfl)
  · exact readsAs_letter (by decide) (by rw [hbackslash]; rfl)
  · exact readsAs_letter (by decide) (by rw [hn]; rfl)
  · exact readsAs_letter (by decide) (by rw [hr]; rfl)
  · exact readsAs_letter (by decide) (by rw [ht]; rfl)
  · exact readsAs_letter (by decide) (by rw [hf]; rfl)
  · exact readsAs_letter (by decide) (by rw [hb]; rfl)
  · exact readsAs_point hquote hbackslash hprinted.1
  · exact readsAs_unit hscalar hsmall
  · exact readsAs_pair hscalar (Nat.le_of_not_lt hsmall)

theorem isPrintableAscii_of_mem_escapeUnit {n : Nat} {d : CodePoint} (h : d ∈ escapeUnit n) :
    d.IsPrintableAscii := by
  rcases List.mem_append.1 h with h | h
  · have hstart : ∀ d ∈ Text.ofString "\\u", d.IsPrintableAscii := by decide
    exact hstart d h
  · exact Text.isPrintableAscii_of_mem_hex h

/-- **There is nothing but printable ASCII in a code point as it is written**, a half that stands
alone included. -/
theorem isPrintableAscii_of_mem_escape {c d : CodePoint} (h : d ∈ escape c) :
    d.IsPrintableAscii := by
  have hletters : ∀ t ∈ ["\\\"", "\\\\", "\\n", "\\r", "\\t", "\\f", "\\b"],
      ∀ d ∈ Text.ofString t, d.IsPrintableAscii := by decide
  unfold escape at h
  split_ifs at h with hquote hbackslash hn hr ht hf hb hprinted hsmall
  iterate 7
    · exact hletters _ (by simp) d h
  · rw [List.mem_singleton.1 h]
    exact ⟨hprinted.1, Nat.le_of_lt_succ hprinted.2⟩
  · exact isPrintableAscii_of_mem_escapeUnit h
  · rcases List.mem_append.1 h with h | h
    · exact isPrintableAscii_of_mem_escapeUnit h
    · exact isPrintableAscii_of_mem_escapeUnit h

/-! ## Texts in quotes -/

variable {t : Text}

theorem writeText_eq (t : Text) :
    writeText t = .scalar '"' :: (t.flatMap escape ++ [.scalar '"']) := rfl

theorem isPrintableAscii_of_mem_writeText {d : CodePoint} (h : d ∈ writeText t) :
    d.IsPrintableAscii := by
  have hquote : (CodePoint.scalar '"').IsPrintableAscii := by decide
  rw [writeText_eq, List.mem_cons, List.mem_append, List.mem_singleton] at h
  rcases h with rfl | h | rfl
  · exact hquote
  · obtain ⟨c, -, hd⟩ := List.mem_flatMap.1 h
    exact isPrintableAscii_of_mem_escape hd
  · exact hquote

/-- **A text of scalar values is read as itself** up to the quote that ends it. -/
theorem scanText_quoted (ht : t.IsEncodable) (start place : Nat) (rest : Text) :
    ∃ units, scanText start place (t.flatMap escape ++ .scalar '"' :: rest) =
      .ok (units, (t.flatMap escape).length + 1) ∧ joinUnits units = t := by
  induction t generalizing place with
  | nil => exact ⟨[], rfl, rfl⟩
  | cons c t ih =>
    rw [Text.IsEncodable, List.forall_mem_cons] at ht
    obtain ⟨units, hread, hunits⟩ := readsAs_escape ht.1
    obtain ⟨more, hmore, hjoin⟩ := ih ht.2 (place + (escape c).length)
    refine ⟨units ++ more, eq_ok_of_toOption ?_, by rw [hunits, hjoin]⟩
    rw [List.flatMap_cons, List.append_assoc, hread, hmore, List.length_append, Nat.add_assoc]
    rfl

/-- The code points that belong to a token are skipped. -/
theorem tokensFrom_skip (taken rest : Text) (place : Nat) :
    tokensFrom taken.length place (taken ++ rest) =
      tokensFrom 0 (place + taken.length) rest := by
  induction taken generalizing place with
  | nil => rfl
  | cons c taken ih =>
    rw [List.length_cons, List.cons_append, tokensFrom, ih, Nat.add_right_comm]
    rfl

theorem front_quote (place : Nat) (rest : Text) :
    front place (.scalar '"') rest =
      match scanText place (place + 1) rest with
      | .ok (units, taken) => (.text (joinUnits units), taken + 1)
      | .error (flaw, at_) => (.badText flaw at_, 1) := rfl

/-- **A text of scalar values is one token** as it is written. -/
theorem tokensFrom_writeText (ht : t.IsEncodable) (place : Nat) (rest : Text) :
    tokensFrom 0 place (writeText t ++ rest) =
      (place, .text t) :: tokensFrom 0 (place + (writeText t).length) rest := by
  obtain ⟨units, hread, hjoin⟩ := scanText_quoted ht place (place + 1) rest
  have hfront : front place (.scalar '"') (t.flatMap escape ++ .scalar '"' :: rest) =
      (.text t, (t.flatMap escape).length + 2) := by
    rw [front_quote, hread, ← hjoin]
  have hbody : t.flatMap escape ++ .scalar '"' :: rest =
      (t.flatMap escape ++ [.scalar '"']) ++ rest := by simp
  have hlength : (t.flatMap escape).length + 2 - 1 =
      (t.flatMap escape ++ [CodePoint.scalar '"']).length := by simp
  rw [writeText_eq, List.cons_append, ← hbody, tokensFrom_token (by decide), hfront]
  dsimp only
  rw [hlength, hbody, tokensFrom_skip, List.length_cons, Nat.add_assoc, Nat.add_comm 1]

end Json

end LabelPress
