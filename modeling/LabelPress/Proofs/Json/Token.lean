import LabelPress.Json.Token
import LabelPress.Proofs.Action
import Mathlib.Tactic.SplitIfs

/-!
# Tokens and lines

No token goes beyond the end of its line. A line end is no digit and no letter of a word, and in a
quoted text it may not stand as it is. So the token at the front of a line is the same whatever comes
after the line (`front_append`), and it takes no more than what is left of it (`taken_front_le`).
-/

namespace LabelPress

namespace Text

theorem toNatBase?_eq_none {base : Nat} {t : Text} {c : CodePoint} (hc : c ∈ t)
    (hdigit : c.hexDigit? = none) : toNatBase? base t = none := by
  have hfrom (start : Nat) : (t.foldlM (fun acc c => c.hexDigit?.bind fun d =>
      if d < base then some (acc * base + d) else none) start) = none := by
    induction t generalizing start with
    | nil => cases hc
    | cons b t ih =>
      rw [List.foldlM_cons]
      rcases List.mem_cons.1 hc with rfl | hc
      · rw [hdigit]
        rfl
      · exact Option.bind_eq_none_iff.2 fun next _ => ih hc next
  exact hfrom 0

end Text

namespace Json

/-- Whether a text can follow a line: it is empty or starts with the end of that line. -/
inductive FollowsLine : Text → Prop
  | nil : FollowsLine []
  | feed (rest : Text) : FollowsLine (.scalar '\n' :: rest)
  | carriage (rest : Text) : FollowsLine (.scalar '\r' :: rest)

variable {s u : Text} {start place start' place' : Nat}

/-! ## Quoted texts -/

theorem scanText_number (a b c d : CodePoint) (rest : Text) :
    (scanText start place (.scalar '\\' :: .scalar 'u' :: a :: b :: c :: d :: rest)).toOption =
      (fourHex? a b c d).bind fun n =>
        (scanText start (place + 6) rest).toOption.map (prepend ⟨true, .ofNat n⟩ 6) := by
  rw [scanText]
  cases fourHex? a b c d with
  | none => cases rest <;> rfl
  | some n =>
    cases rest with
    | nil => rfl
    | cons e rest => exact toOption_map _ _

theorem scanText_escape {c : CodePoint} (hc : c ≠ .scalar 'u') (rest : Text) :
    (scanText start place (.scalar '\\' :: c :: rest)).toOption =
      (letterEscape? c).bind fun e =>
        (scanText start (place + 2) rest).toOption.map (prepend ⟨false, e⟩ 2) := by
  rw [scanText]
  · cases letterEscape? c with
    | none => rfl
    | some e => exact toOption_map _ _
  · rintro a b c d rest rfl
    contradiction
  · rintro rfl
    contradiction

theorem scanText_point {c : CodePoint} (hquote : c ≠ .scalar '"') (hescape : c ≠ .scalar '\\')
    (rest : Text) : (scanText start place (c :: rest)).toOption =
      if c.value < 0x20 then none
      else (scanText start (place + 1) rest).toOption.map (prepend ⟨false, c⟩ 1) := by
  rw [scanText]
  · split
    · rfl
    · exact toOption_map _ _
  all_goals first | exact hquote | (intros; exact absurd ‹_› hescape)

theorem scanText_of_lineEnd (hs : FollowsLine s) : (scanText start place s).toOption = none := by
  cases hs <;> rfl

/-- No number of a code point goes beyond the end of a line. -/
theorem scanText_short_number (hu : u.length < 4) (hs : FollowsLine s) :
    (scanText start place (.scalar '\\' :: .scalar 'u' :: (u ++ s))).toOption = none := by
  rcases h : u ++ s with _ | ⟨a, _ | ⟨b, _ | ⟨c, _ | ⟨d, rest⟩⟩⟩⟩
  · rfl
  · rfl
  · rfl
  · rfl
  · have htake : [a, b, c, d] = u ++ s.take (4 - u.length) := by
      have htake := congrArg (List.take 4) h
      rw [List.take_append, List.take_of_length_le (by omega)] at htake
      exact htake.symm
    have hcut (e : CodePoint) (t : Text) (ht : s = e :: t) (he : e.hexDigit? = none) :
        fourHex? a b c d = none := by
      refine Text.toNatBase?_eq_none ?_ he
      obtain ⟨n, hn⟩ : ∃ n, 4 - u.length = n + 1 := ⟨3 - u.length, by omega⟩
      rw [htake, ht, hn]
      simp
    rw [scanText_number]
    cases hs with
    | nil =>
      have := congrArg List.length h
      simp at this
      omega
    | feed t => rw [hcut _ t rfl rfl]; rfl
    | carriage t => rw [hcut _ t rfl rfl]; rfl

/-- **A quoted text is read to its end or to that of its line**, whatever comes next. -/
theorem scanText_append (hs : FollowsLine s) :
    (scanText start place (u ++ s)).toOption = (scanText start' place' u).toOption := by
  -- What is neither the closing quote nor in an escape stands for itself.
  have hpoint {c : CodePoint} {rest : Text} (hlast : c = .scalar '\\' → rest = [] → False)
      (hmore : ∀ d t, c = .scalar '\\' → rest = d :: t → False) : c ≠ .scalar '\\' := fun hc => by
    cases rest with
    | nil => exact hlast hc rfl
    | cons d t => exact hmore d t hc rfl
  fun_induction scanText start' place' u generalizing place
  all_goals simp only [List.cons_append, List.nil_append]
  case case1 => exact scanText_of_lineEnd hs
  case case2 => rfl
  case case3 => cases hs <;> rfl
  case case4 a b c d rest n hhex hrest ih =>
    rw [scanText_number, hhex, ih, toOption_map]
    rfl
  -- Either the digits are none, or the text ends after them and the line does so too.
  case case5 a b c d rest hbad =>
    rw [scanText_number]
    cases hhex : fourHex? a b c d with
    | none => rfl
    | some n =>
      have hrest : rest = [] := by simpa [hhex] using hbad
      rw [hrest, List.nil_append, scanText_of_lineEnd hs]
      rfl
  case case6 tail hshort =>
    have hlength : tail.length < 4 := by
      rcases tail with _ | ⟨a, _ | ⟨b, _ | ⟨c, _ | ⟨d, rest⟩⟩⟩⟩
      case cons.cons.cons.cons => exact (hshort a b c d rest rfl).elim
      all_goals simp
    exact scanText_short_number hlength hs
  case case7 hu e he ih =>
    rw [scanText_escape hu, he, ih, toOption_map]
    rfl
  case case8 hu he =>
    rw [scanText_escape hu, he]
    rfl
  case case9 c rest hquote hlast _ _ hmore hc =>
    rw [scanText_point hquote (hpoint hlast hmore), if_pos hc]
    rfl
  case case10 c rest hquote hlast _ _ hmore hc ih =>
    rw [scanText_point hquote (hpoint hlast hmore), if_neg hc, ih, toOption_map]

/-- A quoted text takes no more than there is. -/
theorem taken_scanText_le {units : List Unit} {taken : Nat}
    (h : scanText start place u = .ok (units, taken)) : taken ≤ u.length := by
  have hstep {u : Unit} {width : Nat} {rest : Text} {read : Except (TextFlaw × Nat) (List Unit × Nat)}
      {units : List Unit} {taken : Nat} (h : read.map (prepend u width) = .ok (units, taken))
      (ih : ∀ units taken, read = .ok (units, taken) → taken ≤ rest.length) :
      taken ≤ rest.length + width := by
    cases read with
    | error e => cases h
    | ok p =>
      have := ih p.1 p.2 rfl
      cases h
      omega
  fun_induction scanText start place u generalizing units taken
  case case2 => cases h; simp
  case case4 ih => simpa using hstep h fun _ _ => ih
  case case7 ih => simpa using hstep h fun _ _ => ih
  case case10 ih => simpa using hstep h fun _ _ => ih
  all_goals cases h

/-! ## Numbers and words -/

theorem takeWhile_digits_append (hs : FollowsLine s) :
    (u ++ s).takeWhile CodePoint.isAsciiDigit = u.takeWhile CodePoint.isAsciiDigit := by
  have hstop : s.takeWhile CodePoint.isAsciiDigit = [] := by cases hs <;> rfl
  induction u with
  | nil => exact hstop
  | cons c u ih => rw [List.cons_append, List.takeWhile_cons, List.takeWhile_cons, ih]

theorem wholePart_cons (c : CodePoint) (t : Text) : wholePart (c :: t) =
    if c = .scalar '0' then [.scalar '0'] else (c :: t).takeWhile CodePoint.isAsciiDigit := by
  unfold wholePart
  split <;> simp_all

theorem wholePart_append (hs : FollowsLine s) : wholePart (u ++ s) = wholePart u := by
  cases u with
  | nil => cases hs <;> rfl
  | cons c u =>
    rw [List.cons_append, wholePart_cons, wholePart_cons, ← List.cons_append,
      takeWhile_digits_append hs]

theorem fractionPart_cons (c : CodePoint) (t : Text) : fractionPart (c :: t) =
    if c = .scalar '.' then t.takeWhile CodePoint.isAsciiDigit else [] := by
  unfold fractionPart
  split <;> simp_all

theorem fractionPart_append (hs : FollowsLine s) : fractionPart (u ++ s) = fractionPart u := by
  cases u with
  | nil => cases hs <;> rfl
  | cons c u =>
    rw [List.cons_append, fractionPart_cons, fractionPart_cons, takeWhile_digits_append hs]

/-- The digits of an exponent at the front of a text, and how many code points they take together with
those before them. -/
def exponentDigits? (negative : Bool) (before : Nat) (t : Text) : Option (Bool × Text × Nat) :=
  if (t.takeWhile CodePoint.isAsciiDigit).isEmpty then none
  else some (negative, t.takeWhile CodePoint.isAsciiDigit,
    before + (t.takeWhile CodePoint.isAsciiDigit).length)

/-- An exponent at the front of a text after its letter. -/
def signedExponent? : Text → Option (Bool × Text × Nat)
  | [] => none
  | c :: t =>
    if c = .scalar '-' then exponentDigits? true 2 t
    else if c = .scalar '+' then exponentDigits? false 2 t
    else exponentDigits? false 1 (c :: t)

theorem exponentPart?_cons (c : CodePoint) (t : Text) : exponentPart? (c :: t) =
    if c = .scalar 'e' ∨ c = .scalar 'E' then signedExponent? t else none := by
  have hsigned (c : CodePoint) (hc : c = .scalar 'e' ∨ c = .scalar 'E') :
      exponentPart? (c :: t) = signedExponent? t := by
    cases t with
    | nil => rcases hc with rfl | rfl <;> rfl
    | cons d t =>
      by_cases hminus : d = .scalar '-'
      · subst hminus
        rcases hc with rfl | rfl <;> rfl
      · by_cases hplus : d = .scalar '+'
        · subst hplus
          rcases hc with rfl | rfl <;> rfl
        · rw [signedExponent?, if_neg hminus, if_neg hplus]
          rcases hc with rfl | rfl <;> simp [exponentPart?, exponentDigits?, hminus, hplus]
  split
  · next hc => exact hsigned c hc
  · next hc =>
    unfold exponentPart?
    split <;> simp_all

theorem exponentPart?_append (hs : FollowsLine s) : exponentPart? (u ++ s) = exponentPart? u := by
  have hdigits (negative : Bool) (before : Nat) (u : Text) :
      exponentDigits? negative before (u ++ s) = exponentDigits? negative before u := by
    rw [exponentDigits?, takeWhile_digits_append hs, ← exponentDigits?]
  cases u with
  | nil => cases hs <;> rfl
  | cons c u =>
    rw [List.cons_append, exponentPart?_cons, exponentPart?_cons]
    cases u with
    | nil => cases hs <;> rfl
    | cons d u =>
      simp only [List.cons_append, signedExponent?, hdigits]
      rw [← List.cons_append, hdigits]

theorem length_takeWhile_digits_le (t : Text) :
    (t.takeWhile CodePoint.isAsciiDigit).length ≤ t.length :=
  (List.takeWhile_sublist _).length_le

theorem length_wholePart_le (t : Text) : (wholePart t).length ≤ t.length := by
  cases t with
  | nil => exact Nat.le_refl _
  | cons c t =>
    rw [wholePart_cons]
    split
    · simp
    · exact length_takeWhile_digits_le _

theorem length_fractionPart_lt {t : Text} (h : fractionPart t ≠ []) :
    (fractionPart t).length < t.length := by
  cases t with
  | nil => exact absurd rfl h
  | cons c t =>
    rw [fractionPart_cons] at h ⊢
    split
    · exact Nat.lt_succ_of_le (length_takeWhile_digits_le t)
    · next hc => exact absurd (if_neg hc) h

theorem width_exponentPart?_le {t digits : Text} {down : Bool} {width : Nat}
    (h : exponentPart? t = some (down, digits, width)) : width ≤ t.length := by
  have hdigits {negative : Bool} {before : Nat} {t : Text}
      (h : exponentDigits? negative before t = some (down, digits, width)) :
      width ≤ before + t.length := by
    unfold exponentDigits? at h
    split at h
    · cases h
    · cases h
      exact Nat.add_le_add_left (length_takeWhile_digits_le t) _
  have hsigned {t : Text} (h : signedExponent? t = some (down, digits, width)) :
      width ≤ 1 + t.length := by
    cases t with
    | nil => cases h
    | cons d t =>
      rw [signedExponent?] at h
      rw [List.length_cons]
      split at h
      · exact Nat.le_trans (hdigits h) (by omega)
      · split at h
        · exact Nat.le_trans (hdigits h) (by omega)
        · exact hdigits h
  cases t with
  | nil => cases h
  | cons c t =>
    rw [exponentPart?_cons] at h
    split at h
    · rw [List.length_cons, Nat.add_comm]
      exact hsigned h
    · cases h

/-- How many code points a number takes before its exponent. -/
def mantissaWidth (t : Text) : Nat :=
  (wholePart t).length + if (fractionPart (t.drop (wholePart t).length)).isEmpty then 0
    else (fractionPart (t.drop (wholePart t).length)).length + 1

theorem mantissaWidth_le (t : Text) : mantissaWidth t ≤ t.length := by
  have hwhole := length_wholePart_le t
  unfold mantissaWidth
  split
  · exact hwhole
  · next hfraction =>
    have := length_fractionPart_lt (mt List.isEmpty_iff.2 hfraction)
    rw [List.length_drop] at this
    omega

theorem scanNumber?_eq (negative : Bool) (t : Text) : scanNumber? negative t =
    if (wholePart t).isEmpty then none
    else match fractionPart (t.drop (wholePart t).length), exponentPart? (t.drop (mantissaWidth t)) with
      | [], none =>
        if Digits.limit < (wholePart t).length then
          some (.longInt (wholePart t).length, mantissaWidth t)
        else
          some (.literal (.int (Digits.signed negative (Digits.value (wholePart t)))), mantissaWidth t)
      | fraction, none =>
        some (.literal (.float (Digits.float negative (wholePart t) fraction 0)), mantissaWidth t)
      | fraction, some (down, digits, width) =>
        some (.literal (.float (Digits.float negative (wholePart t) fraction
          (Digits.signed down (Digits.value digits)))), mantissaWidth t + width) := rfl

theorem mantissa_append (hs : FollowsLine s) :
    fractionPart ((u ++ s).drop (wholePart (u ++ s)).length) =
        fractionPart (u.drop (wholePart u).length) ∧
      mantissaWidth (u ++ s) = mantissaWidth u := by
  have hfraction : fractionPart ((u ++ s).drop (wholePart (u ++ s)).length) =
      fractionPart (u.drop (wholePart u).length) := by
    rw [wholePart_append hs, List.drop_append_of_le_length (length_wholePart_le u),
      fractionPart_append hs]
  refine ⟨hfraction, ?_⟩
  unfold mantissaWidth
  rw [hfraction, wholePart_append hs]

/-- **A number is read to the end of its line at most**, whatever comes next. -/
theorem scanNumber?_append (hs : FollowsLine s) (negative : Bool) :
    scanNumber? negative (u ++ s) = scanNumber? negative u := by
  obtain ⟨hfraction, hwidth⟩ := mantissa_append (u := u) hs
  rw [scanNumber?_eq, scanNumber?_eq, hfraction, hwidth, wholePart_append hs,
    List.drop_append_of_le_length (mantissaWidth_le u), exponentPart?_append hs]

/-- A number takes no more than there is. -/
theorem taken_scanNumber?_le {negative : Bool} {token : Token} {taken : Nat}
    (h : scanNumber? negative u = some (token, taken)) : taken ≤ u.length := by
  have hmantissa := mantissaWidth_le u
  rw [scanNumber?_eq] at h
  split at h
  · cases h
  · split at h
    · split at h <;> cases h <;> exact hmantissa
    · cases h
      exact hmantissa
    · next hexponent =>
      cases h
      have := width_exponentPart?_le hexponent
      rw [List.length_drop] at this
      omega

theorem startsWith_append {start : Text} (hstart : .scalar '\n' ∉ start ∧ .scalar '\r' ∉ start)
    (hs : FollowsLine s) : (u ++ s).startsWith start = u.startsWith start := by
  unfold Text.startsWith
  induction start generalizing u with
  | nil => simp [Text.dropPrefix?]
  | cons c start ih =>
    simp only [List.mem_cons, not_or] at hstart
    cases u with
    | nil => cases hs <;> simp [Text.dropPrefix?, Ne.symm hstart.1.1, Ne.symm hstart.2.1]
    | cons d u =>
      rw [List.cons_append, Text.dropPrefix?, Text.dropPrefix?]
      split
      · exact ih ⟨hstart.1.2, hstart.2.2⟩
      · rfl

/-- A word is read to the end of its line at most. -/
theorem word?_append (hs : FollowsLine s) : word? (u ++ s) = word? u := by
  have hwords : ∀ p ∈ words, .scalar '\n' ∉ p.1 ∧ .scalar '\r' ∉ p.1 := by decide
  unfold word?
  generalize words = ws at hwords
  congr 1
  induction ws with
  | nil => rfl
  | cons p ws ih =>
    obtain ⟨hp, hws⟩ := List.forall_mem_cons.1 hwords
    rw [List.find?_cons, List.find?_cons, ih hws]
    dsimp only
    rw [startsWith_append hp hs]

theorem taken_word?_le {token : Token} {taken : Nat} (h : word? u = some (token, taken)) :
    taken ≤ u.length := by
  obtain ⟨⟨word, v⟩, hp, heq⟩ := Option.map_eq_some_iff.1 h
  have hstart := List.find?_some hp
  obtain ⟨rest, hrest⟩ := Option.isSome_iff_exists.1 hstart
  cases heq
  rw [Text.dropPrefix?_eq_some_iff.1 hrest]
  simp

/-! ## Tokens -/

/-- A token, if it is one without a flaw in a quoted text. -/
def Token.sound? : Token → Option Token
  | .badText .. => none
  | token => some token

/-- **The token at the front of a line** is the same whatever comes after the line, but for the place of
a flaw. -/
theorem front_append (place place' : Nat) (u : Text) (hs : FollowsLine s) (c : CodePoint) :
    (front place c (u ++ s)).map Token.sound? id = (front place' c u).map Token.sound? id := by
  rw [front, front, ← List.cons_append, word?_append hs, scanNumber?_append hs,
    scanNumber?_append hs]
  have hquoted : (scanText place (place + 1) (u ++ s)).toOption =
      (scanText place' (place' + 1) u).toOption := scanText_append hs
  split_ifs
  all_goals try rfl
  generalize scanText place (place + 1) (u ++ s) = x at hquoted ⊢
  generalize scanText place' (place' + 1) u = y at hquoted ⊢
  cases x <;> cases y <;> cases hquoted <;> rfl

theorem taken_front_le (place : Nat) (c : CodePoint) (u : Text) :
    (front place c u).2 ≤ u.length + 1 := by
  have hread {number : Option (Token × Nat)} (h : ∀ p, number = some p → p.2 ≤ u.length + 1) :
      (((word? (c :: u)).or number).getD (.stray, 1)).2 ≤ u.length + 1 := by
    cases hor : (word? (c :: u)).or number with
    | none => exact Nat.le_add_left 1 _
    | some p =>
      rcases Option.or_eq_some_iff.1 hor with hword | ⟨-, hnumber⟩
      · exact taken_word?_le hword
      · exact h p hnumber
  unfold front
  repeat' split
  all_goals try exact Nat.le_add_left 1 _
  · next h => exact Nat.succ_le_succ (taken_scanText_le h)
  · refine hread fun p hp => ?_
    obtain ⟨q, hq, rfl⟩ := Option.map_eq_some_iff.1 hp
    exact Nat.succ_le_succ (taken_scanNumber?_le hq)
  · exact hread fun p hp => taken_scanNumber?_le hp

end Json

end LabelPress
