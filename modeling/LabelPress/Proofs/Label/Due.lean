import LabelPress.Label.Description
import LabelPress.Proofs.Text.Digits

/-!
# Due times in descriptions

A due time is written in one of two forms, and `Writes` says which texts write which due times. A
hyphen stands in every text that starts with a date, and in no time of day. So the reader, which
looks for a hyphen and nothing else to tell the two forms apart, never takes the one for the other
once the pattern has let a text through.
-/

namespace LabelPress

namespace ClockTime

theorem of?_eq_some_iff {hour minute second microsecond : Nat} {time : ClockTime} :
    of? hour minute second microsecond = some time ↔
      time.hour = hour ∧ time.minute = minute ∧ time.second = second ∧
        time.microsecond = microsecond := by
  unfold of?
  constructor
  · intro h
    split at h
    · cases h
      exact ⟨rfl, rfl, rfl, rfl⟩
    · cases h
  · rintro ⟨rfl, rfl, rfl, rfl⟩
    exact dif_pos ⟨time.hour_lt, time.minute_lt, time.second_lt, time.microsecond_lt⟩

end ClockTime

namespace Description

/-- Whether a text starts with a date, its digits being of any script, and the mark of a time after
it. -/
def HasDateForm (t : Text) : Prop :=
  ∃ (year month day : Text) (mark : CodePoint) (rest : Text),
    year.length = 4 ∧ month.length = 2 ∧ day.length = 2 ∧
      (∀ c ∈ year ++ month ++ day, c.isDecimal = true) ∧
      (mark = .scalar 'T' ∨ mark = .scalar ' ') ∧
      t = year ++ "-" ++ month ++ "-" ++ day ++ [mark] ++ rest

/-- How due times are written. -/
inductive Writes : Text → Due → Prop where
  /-- A time of day, to the minute; its hour may have one digit or two, and a line feed may end it. -/
  | time {hour stop : Text} {t : ClockTime} (second : t.second = 0) (microsecond : t.microsecond = 0)
      (hour_form : hour = Text.ofNat t.hour ∨ hour = Text.padded 2 t.hour)
      (stop_form : stop = [] ∨ stop = "\n") :
      Writes (hour ++ ":" ++ Text.padded 2 t.minute ++ stop) (.time t)
  /-- A moment in ISO form. -/
  | moment {t : Text} {m : Moment} (form : HasDateForm t) (iso : Iso.moment? t = some m) :
      Writes t (.moment m)

variable {t rest : Text} {a b : CodePoint} {hour minute : Nat}

/-! ## Times of day -/

/-- What follows the hour and the colon of a time of day. -/
def minuteForm? (hour : Nat) (rest : Text) : Option (Nat × Nat) :=
  match rest with
  | a :: b :: tail => a.digit?.bind fun high => b.digit?.bind fun low =>
    if (tail = [] ∨ tail = [.scalar '\n']) ∧ hour < 24 ∧ 10 * high + low < 60 then
      some (hour, 10 * high + low)
    else none
  | _ => none

theorem clockForm?_of_digit {h : Nat} (ha : a.digit? = some h) :
    clockForm? (a :: .scalar ':' :: rest) = minuteForm? h rest := by
  simp only [clockForm?, ha]
  rfl

theorem clockForm?_of_digits {high low : Nat} (ha : a.digit? = some high)
    (hb : b.digit? = some low) :
    clockForm? (a :: b :: .scalar ':' :: rest) = minuteForm? (10 * high + low) rest := by
  have hcolon : b ≠ .scalar ':' := fun h => by
    rw [h] at hb
    cases hb
  unfold clockForm?
  split
  · next heq => cases heq; exact absurd rfl hcolon
  · next heq => cases heq; simp only [ha, hb]; rfl
  · next hne => exact absurd rfl (hne a b rest)

/-- The hour of a time of day is one digit or two. -/
theorem exists_of_clockForm? {p : Nat × Nat} (h : clockForm? t = some p) :
    ∃ rest hour, minuteForm? hour rest = some p ∧
      ((∃ a, a.digit? = some hour ∧ t = a :: .scalar ':' :: rest) ∨
        ∃ a b high low, a.digit? = some high ∧ b.digit? = some low ∧ hour = 10 * high + low ∧
          t = a :: b :: .scalar ':' :: rest) := by
  have hform := h
  unfold clockForm? at h
  split at h
  · next a rest =>
    obtain ⟨d, ha, -⟩ := Option.bind_eq_some_iff.1 h
    rw [clockForm?_of_digit ha] at hform
    exact ⟨rest, d, hform, .inl ⟨a, ha, rfl⟩⟩
  · next a b rest _ =>
    obtain ⟨high, ha, h⟩ := Option.bind_eq_some_iff.1 h
    obtain ⟨low, hb, -⟩ := Option.bind_eq_some_iff.1 h
    rw [clockForm?_of_digits ha hb] at hform
    exact ⟨rest, _, hform, .inr ⟨a, b, high, low, ha, hb, rfl, rfl⟩⟩
  · cases h

/-- Two digits are a number below a hundred in its form of two digits. -/
theorem padded_of_digits {high low : Nat} (ha : a.digit? = some high) (hb : b.digit? = some low) :
    [a, b] = Text.padded 2 (10 * high + low) := by
  obtain ⟨hhigh, rfl⟩ := CodePoint.digit?_eq_some_iff.1 ha
  obtain ⟨hlow, rfl⟩ := CodePoint.digit?_eq_some_iff.1 hb
  have hdiv : (10 * high + low) / 10 = high := by omega
  have hmod : (10 * high + low) % 10 = low := by omega
  rw [Text.padded_two (by omega), hdiv, hmod]

theorem digits_of_lt {n : Nat} (h : n < 100) :
    ∃ a b high low, Text.padded 2 n = [a, b] ∧ a.digit? = some high ∧ b.digit? = some low ∧
      n = 10 * high + low :=
  ⟨_, _, _, _, Text.padded_two h, CodePoint.digit?_ofDigit (by omega),
    CodePoint.digit?_ofDigit (by omega), by omega⟩

theorem minuteForm?_eq_some_iff {h : Nat} :
    minuteForm? h rest = some (hour, minute) ↔ h = hour ∧ hour < 24 ∧ minute < 60 ∧
      ∃ stop : Text, (stop = [] ∨ stop = "\n") ∧ rest = Text.padded 2 minute ++ stop := by
  constructor
  · intro hform
    unfold minuteForm? at hform
    split at hform
    · next a b tail =>
      obtain ⟨high, ha, hform⟩ := Option.bind_eq_some_iff.1 hform
      obtain ⟨low, hb, hform⟩ := Option.bind_eq_some_iff.1 hform
      split at hform
      · next hrange =>
        cases hform
        refine ⟨rfl, hrange.2.1, hrange.2.2, tail, hrange.1, ?_⟩
        rw [← padded_of_digits ha hb]
        rfl
      · cases hform
    · cases hform
  · rintro ⟨rfl, hhour, hminute, stop, hstop, rfl⟩
    obtain ⟨a, b, high, low, hpadded, ha, hb, rfl⟩ := digits_of_lt (n := minute) (by omega)
    simp only [hpadded, minuteForm?, List.cons_append, List.nil_append, ha, hb, Option.bind_some]
    exact if_pos ⟨hstop, hhour, hminute⟩

/-- **The texts that are taken for times of day**, and what is read from them. -/
theorem clockForm?_eq_some_iff :
    clockForm? t = some (hour, minute) ↔ hour < 24 ∧ minute < 60 ∧ ∃ start stop : Text,
      (start = Text.ofNat hour ∨ start = Text.padded 2 hour) ∧ (stop = [] ∨ stop = "\n") ∧
        t = start ++ ":" ++ Text.padded 2 minute ++ stop := by
  constructor
  · intro hform
    obtain ⟨rest, h, hrest, hfront⟩ := exists_of_clockForm? hform
    obtain ⟨rfl, hhour, hminute, stop, hstop, rfl⟩ := minuteForm?_eq_some_iff.1 hrest
    refine ⟨hhour, hminute, ?_⟩
    rcases hfront with ⟨a, ha, rfl⟩ | ⟨a, b, high, low, ha, hb, rfl, rfl⟩
    · obtain ⟨hlt, rfl⟩ := CodePoint.digit?_eq_some_iff.1 ha
      exact ⟨_, stop, .inl (Text.ofNat_of_lt_ten hlt).symm, hstop, rfl⟩
    · exact ⟨_, stop, .inr (padded_of_digits ha hb), hstop, rfl⟩
  · rintro ⟨hhour, hminute, start, stop, hstart, hstop, rfl⟩
    have hrest : minuteForm? hour (Text.padded 2 minute ++ stop) = some (hour, minute) :=
      minuteForm?_eq_some_iff.2 ⟨rfl, hhour, hminute, stop, hstop, rfl⟩
    have htwo : clockForm? (Text.padded 2 hour ++ ":" ++ Text.padded 2 minute ++ stop) =
        some (hour, minute) := by
      obtain ⟨a, b, high, low, hpadded, ha, hb, hsum⟩ := digits_of_lt (n := hour) (by omega)
      rw [hpadded, ← hrest, hsum]
      exact clockForm?_of_digits ha hb
    rcases hstart with rfl | rfl
    · rcases Nat.lt_or_ge hour 10 with hlt | hge
      · rw [Text.ofNat_of_lt_ten hlt, ← hrest]
        exact clockForm?_of_digit (CodePoint.digit?_ofDigit hlt)
      · rw [Text.ofNat_of_ten_le hge (by omega), ← Text.padded_two (by omega)]
        exact htwo
    · exact htwo

/-- There is no hyphen in a time of day. -/
theorem not_has_hyphen_of_clockForm? (h : clockForm? t = some (hour, minute)) :
    t.has (.scalar '-') = false := by
  obtain ⟨-, -, start, stop, hstart, hstop, rfl⟩ := clockForm?_eq_some_iff.1 h
  have hfront : CodePoint.scalar '-' ∉ start := by
    rcases hstart with rfl | rfl
    · exact Text.not_mem_ofNat (by decide) hour
    · exact Text.not_mem_padded (by decide) 2 hour
  have hend : CodePoint.scalar '-' ∉ stop := by
    rcases hstop with rfl | rfl <;> decide
  have hminute : CodePoint.scalar '-' ∉ Text.padded 2 minute :=
    Text.not_mem_padded (by decide) 2 minute
  have hnot : CodePoint.scalar '-' ∉ start ++ ":" ++ Text.padded 2 minute ++ stop := by
    simp only [List.mem_append, not_or]
    exact ⟨⟨⟨hfront, by decide⟩, hminute⟩, hend⟩
  rw [Text.has, List.any_eq_false]
  intro c hc heq
  exact hnot (eq_of_beq heq ▸ hc)

/-! ## Moments -/

theorem startsWithDate_iff : startsWithDate t = true ↔ HasDateForm t := by
  constructor
  · intro h
    unfold startsWithDate at h
    split at h
    · next a b c d e f g h' s rest =>
      simp only [Bool.and_eq_true, List.all_eq_true, Bool.or_eq_true, decide_eq_true_eq] at h
      exact ⟨[a, b, c, d], [e, f], [g, h'], s, rest, rfl, rfl, rfl, h.1, h.2, rfl⟩
    · cases h
  · rintro ⟨year, month, day, mark, rest, hyear, hmonth, hday, hdigits, hmark, rfl⟩
    match year, month, day, hyear, hmonth, hday with
    | [a, b, c, d], [e, f], [g, h], _, _, _ =>
      change ([a, b, c, d, e, f, g, h].all CodePoint.isDecimal &&
        (mark = .scalar 'T' || mark = .scalar ' ')) = true
      simp only [Bool.and_eq_true, List.all_eq_true, Bool.or_eq_true, decide_eq_true_eq]
      exact ⟨hdigits, hmark⟩

theorem HasDateForm.has_hyphen (h : HasDateForm t) : t.has (.scalar '-') = true := by
  obtain ⟨year, month, day, mark, rest, -, -, -, -, -, rfl⟩ := h
  simp [Text.has, Text.ofString]

/-! ## Reading a due time -/

theorem readDue_of_clockForm? (h : clockForm? t = some (hour, minute)) {due : Due} :
    readDue t = .ok due ↔
      ∃ time, ClockTime.of? hour minute 0 0 = some time ∧ due = .time time := by
  simp only [readDue, not_has_hyphen_of_clockForm? h, h, Bool.false_eq_true, if_false,
    Option.bind_some]
  cases ClockTime.of? hour minute 0 0 <;> simp [eq_comm]

theorem readDue_of_hasDateForm (h : HasDateForm t) {due : Due} :
    readDue t = .ok due ↔ ∃ m, Iso.moment? t = some m ∧ due = .moment m := by
  simp only [readDue, h.has_hyphen, if_true]
  cases Iso.moment? t <;> simp [eq_comm]

/-- **A due time is read exactly as it is written**: the texts that the pattern lets through and that
are then read are the texts that write a due time, and that due time is what is read. -/
theorem readDue_eq_ok_iff {due : Due} :
    duePattern.found t = true ∧ readDue t = .ok due ↔ Writes t due := by
  have hfound : duePattern.found t = true ↔
      (∃ hour minute, clockForm? t = some (hour, minute)) ∨ HasDateForm t := by
    change ((clockForm? t).isSome || startsWithDate t) = true ↔ _
    rw [Bool.or_eq_true, startsWithDate_iff, Option.isSome_iff_exists, Prod.exists]
  rw [hfound]
  constructor
  · rintro ⟨⟨hour, minute, hclock⟩ | hdate, hread⟩
    · obtain ⟨time, htime, rfl⟩ := (readDue_of_clockForm? hclock).1 hread
      obtain ⟨rfl, rfl, hsecond, hmicrosecond⟩ := ClockTime.of?_eq_some_iff.1 htime
      obtain ⟨-, -, start, stop, hstart, hstop, rfl⟩ := clockForm?_eq_some_iff.1 hclock
      exact .time hsecond hmicrosecond hstart hstop
    · obtain ⟨m, hm, rfl⟩ := (readDue_of_hasDateForm hdate).1 hread
      exact .moment hdate hm
  · intro h
    cases h with
    | @time start stop time hsecond hmicrosecond hstart hstop =>
      have hclock : clockForm? (start ++ ":" ++ Text.padded 2 time.minute ++ stop) =
          some (time.hour, time.minute) :=
        clockForm?_eq_some_iff.2 ⟨time.hour_lt, time.minute_lt, start, stop, hstart, hstop, rfl⟩
      have htime : ClockTime.of? time.hour time.minute 0 0 = some time :=
        ClockTime.of?_eq_some_iff.2 ⟨rfl, rfl, hsecond, hmicrosecond⟩
      exact ⟨.inl ⟨_, _, hclock⟩, (readDue_of_clockForm? hclock).2 ⟨time, htime, rfl⟩⟩
    | moment hform hiso => exact ⟨.inr hform, (readDue_of_hasDateForm hform).2 ⟨_, hiso, rfl⟩⟩

end Description

end LabelPress
