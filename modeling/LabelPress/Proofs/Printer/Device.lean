import LabelPress.Proofs.Link.Build
import LabelPress.Proofs.Text.Ascii
import LabelPress.Proofs.Text.Lines
import Mathlib.Data.List.Forall2

/-!
# Device addresses

A device address is six pairs of hexadecimal digits with colons between them (`IsDeviceAddress`).
`Address.readDevice` is loose in three ways: it drops every kind of blank at the ends, it allows for a line
feed after the last pair, and it takes the upper case of all scripts. None of them lets anything else
through. What is left without the blanks does not end with a line feed, and device addresses are in ASCII.
So an address has one form, which is read as it is, and two texts are read as the same address if they
differ in nothing but the blanks around them and the case of hexadecimal letters
(`readDevice_has_one_form`).
-/

namespace LabelPress

namespace Address

/-- The hexadecimal digits, letters in either case. -/
def hexDigits : Text := "0123456789abcdefABCDEF"

/-- The hexadecimal letters, each small and as a capital. -/
def hexLetters : List (CodePoint × CodePoint) :=
  [(.scalar 'a', .scalar 'A'), (.scalar 'b', .scalar 'B'), (.scalar 'c', .scalar 'C'),
    (.scalar 'd', .scalar 'D'), (.scalar 'e', .scalar 'E'), (.scalar 'f', .scalar 'F')]

/-- Two hexadecimal digits. -/
structure IsPair (t : Text) : Prop where
  length : t.length = 2
  digits : ∀ c ∈ t, c ∈ hexDigits

/-- A device address: six pairs of hexadecimal digits with colons between them, and nothing else. -/
def IsDeviceAddress (t : Text) : Prop :=
  ∃ pairs : List Text, t = Text.join [.scalar ':'] pairs ∧ pairs.length = 6 ∧
    ∀ pair ∈ pairs, IsPair pair

/-- The same code point, or one hexadecimal letter in its two cases. -/
def SameSign (c d : CodePoint) : Prop := c = d ∨ (c, d) ∈ hexLetters ∨ (d, c) ∈ hexLetters

instance : DecidableRel SameSign := fun c d =>
  inferInstanceAs (Decidable (c = d ∨ (c, d) ∈ hexLetters ∨ (d, c) ∈ hexLetters))

/-- Texts that are the same, sign by sign, but for the case of hexadecimal letters. -/
def SameButCase (t u : Text) : Prop := List.Forall₂ SameSign t u

/-! ## Signs -/

/-- The signs that device addresses are made of. -/
def deviceSigns : Text := .scalar ':' :: hexDigits

theorem isSome_hexDigit?_iff (c : CodePoint) : c.hexDigit?.isSome = true ↔ c ∈ hexDigits := by
  refine CodePoint.forall_of_ascii
    (p := fun c => c.hexDigit?.isSome = true ↔ c ∈ hexDigits) ?_ ?_ c
  · decide +kernel
  · intro c hc
    have hascii : ∀ d ∈ hexDigits, d.value < 128 := by decide
    rw [CodePoint.hexDigit?_of_le hc]
    exact iff_of_false (by decide) fun hmem => absurd (hascii c hmem) (Nat.not_lt.2 hc)

theorem toAsciiUpper_mem_hexDigits_iff (c : CodePoint) :
    c.toAsciiUpper ∈ hexDigits ↔ c ∈ hexDigits := by
  rw [← isSome_hexDigit?_iff, CodePoint.hexDigit?_toAsciiUpper, isSome_hexDigit?_iff]

theorem toAsciiUpper_eq_colon_iff (c : CodePoint) :
    c.toAsciiUpper = .scalar ':' ↔ c = .scalar ':' := by
  refine CodePoint.forall_of_ascii
    (p := fun c => c.toAsciiUpper = .scalar ':' ↔ c = .scalar ':') ?_ ?_ c
  · decide +kernel
  · intro c hc
    rw [CodePoint.toAsciiUpper_of_le hc]

theorem toAsciiUpper_mem_deviceSigns_iff (c : CodePoint) :
    c.toAsciiUpper ∈ deviceSigns ↔ c ∈ deviceSigns := by
  simp only [deviceSigns, List.mem_cons, toAsciiUpper_eq_colon_iff, toAsciiUpper_mem_hexDigits_iff]

/-- **A sign of an address has the same capital as another sign** exactly if the two are the same but
for their case. -/
theorem sameSign_iff {c : CodePoint} (hc : c ∈ deviceSigns) (d : CodePoint) :
    SameSign c d ↔ c.toAsciiUpper = d.toAsciiUpper := by
  constructor
  · have hletters : ∀ p ∈ hexLetters, p.1.toAsciiUpper = p.2.toAsciiUpper := by decide
    rintro (rfl | h | h)
    · rfl
    · exact hletters _ h
    · exact (hletters _ h).symm
  · intro h
    have hd : d ∈ deviceSigns := by
      rwa [← toAsciiUpper_mem_deviceSigns_iff, ← h, toAsciiUpper_mem_deviceSigns_iff]
    -- Each of the two is the capital itself or the one small letter that goes with it.
    have hown : ∀ c ∈ deviceSigns, c = c.toAsciiUpper ∨ (c, c.toAsciiUpper) ∈ hexLetters := by decide
    have hone : ∀ p ∈ hexLetters, ∀ q ∈ hexLetters, p.2 = q.2 → p.1 = q.1 := by decide
    have hcown := hown c hc
    have hdown := hown d hd
    rw [← h] at hdown
    rcases hcown with hcown | hcown
    · rcases hdown with hdown | hdown
      · exact .inl (hcown.trans hdown.symm)
      · exact .inr (.inr (hcown.symm ▸ hdown))
    · rcases hdown with hdown | hdown
      · exact .inr (.inl (hdown.symm ▸ hcown))
      · exact .inl (hone _ hcown _ hdown rfl)

/-- So texts of such signs are the same but for their case exactly if they have the same capitals. -/
theorem sameButCase_iff {t : Text} (ht : ∀ c ∈ t, c ∈ deviceSigns) (u : Text) :
    SameButCase t u ↔ t.toAsciiUpper = u.toAsciiUpper := by
  unfold SameButCase Text.toAsciiUpper
  induction t generalizing u with
  | nil => simp
  | cons c t ih =>
    cases u with
    | nil => simp
    | cons d u =>
      rw [List.forall₂_cons, sameSign_iff (ht c (.head _)), ih (fun e he => ht e (.tail _ he)),
        List.map_cons, List.map_cons, List.cons.injEq]

/-! ## Addresses -/

/-- An address is told by its parts between colons. -/
theorem isDeviceAddress_iff_splitOn (t : Text) :
    IsDeviceAddress t ↔
      (Text.splitOn ':' t).length = 6 ∧ ∀ pair ∈ Text.splitOn ':' t, IsPair pair := by
  constructor
  · rintro ⟨pairs, rfl, hcount, hpairs⟩
    have hne : pairs ≠ [] := List.ne_nil_of_length_pos (by omega)
    have hcolon : ∀ pair ∈ pairs, .scalar ':' ∉ pair := fun pair hpair hmem =>
      absurd ((hpairs pair hpair).digits _ hmem) (by decide)
    rw [Text.splitOn_join hne hcolon]
    exact ⟨hcount, hpairs⟩
  · rintro ⟨hcount, hpairs⟩
    exact ⟨_, (Text.join_splitOn _ t).symm, hcount, hpairs⟩

namespace IsDeviceAddress

variable {t : Text}

theorem sign_of_mem (h : IsDeviceAddress t) {c : CodePoint} (hc : c ∈ t) : c ∈ deviceSigns := by
  obtain ⟨pairs, rfl, -, hpairs⟩ := h
  rcases Text.mem_join hc with hcolon | ⟨pair, hpair, hdigit⟩
  · exact List.mem_singleton.1 hcolon ▸ .head _
  · exact .tail _ ((hpairs pair hpair).digits c hdigit)

theorem value_lt (h : IsDeviceAddress t) : ∀ c ∈ t, c.value < 128 := by
  have hsigns : ∀ c ∈ deviceSigns, c.value < 128 := by decide
  exact fun c hc => hsigns c (h.sign_of_mem hc)

theorem isBlank_eq_false (h : IsDeviceAddress t) : ∀ c ∈ t, c.isBlank = false := by
  have hsigns : ∀ c ∈ deviceSigns, c.isBlank = false := by decide
  exact fun c hc => hsigns c (h.sign_of_mem hc)

/-- An address has twelve digits and five colons. -/
theorem length_eq (h : IsDeviceAddress t) : t.length = 17 := by
  obtain ⟨pairs, rfl, hcount, hpairs⟩ := h
  cases pairs with
  | nil => cases hcount
  | cons first rest =>
    have hrest : (rest.map fun pair => ([.scalar ':'] ++ pair : Text).length) =
        List.replicate rest.length 3 := by
      refine List.map_eq_replicate_iff.2 fun pair hpair => ?_
      rw [List.length_append, (hpairs pair (.tail _ hpair)).length]
      rfl
    have hcount' : rest.length = 5 := Nat.succ.inj hcount
    rw [Text.join_cons, List.length_append, List.length_flatMap, hrest, hcount',
      (hpairs first (.head _)).length]
    rfl

end IsDeviceAddress

/-- The capitals of a text are an address exactly if the text is one. -/
theorem isDeviceAddress_toAsciiUpper_iff (t : Text) :
    IsDeviceAddress t.toAsciiUpper ↔ IsDeviceAddress t := by
  have hpair (pair : Text) : IsPair (pair.map CodePoint.toAsciiUpper) ↔ IsPair pair := by
    constructor
    · rintro ⟨hlength, hdigits⟩
      exact ⟨by rwa [List.length_map] at hlength, fun c hc =>
        (toAsciiUpper_mem_hexDigits_iff c).1 (hdigits _ (List.mem_map_of_mem hc))⟩
    · rintro ⟨hlength, hdigits⟩
      refine ⟨by rwa [List.length_map], List.forall_mem_map.2 fun c hc => ?_⟩
      exact (toAsciiUpper_mem_hexDigits_iff c).2 (hdigits c hc)
  rw [isDeviceAddress_iff_splitOn, isDeviceAddress_iff_splitOn, Text.toAsciiUpper,
    Text.splitOn_map toAsciiUpper_eq_colon_iff, List.length_map, List.forall_mem_map]
  simp only [hpair]

/-! ## What is read -/

/-- What passes for an address is one, but for a line feed at its end. -/
theorem isDevice_iff {t : Text} (h : t.getLast? ≠ some (.scalar '\n')) :
    isDevice t = true ↔ IsDeviceAddress t := by
  have hpair (pair : Text) :
      (pair.length = 2 && pair.all fun c => c.hexDigit?.isSome) = true ↔ IsPair pair := by
    simp only [Bool.and_eq_true, decide_eq_true_eq, List.all_eq_true, isSome_hexDigit?_iff]
    exact ⟨fun hp => ⟨hp.1, hp.2⟩, fun hp => ⟨hp.length, hp.digits⟩⟩
  rw [isDeviceAddress_iff_splitOn, isDevice, dropFinalLineFeed, if_neg h]
  simp only [Bool.and_eq_true, decide_eq_true_eq, List.all_eq_true, hpair]

/-- **What is read as a device address**: one without the blanks around it, in capitals. -/
theorem readDevice_eq_ok_iff {t device : Text} :
    readDevice t = .ok device ↔ IsDeviceAddress t.strip ∧ device = t.strip.toAsciiUpper := by
  have hdevice : isDevice t.strip = true ↔ IsDeviceAddress t.strip :=
    isDevice_iff (Text.getLast?_trim_ne (by decide) t)
  constructor
  · intro h
    simp only [readDevice] at h
    split at h
    next => cases h
    split at h
    next hread =>
      have haddress : IsDeviceAddress t.strip := hdevice.1 hread
      refine ⟨haddress, ?_⟩
      rw [← Except.ok.inj h, Text.toUpper_of_ascii haddress.value_lt]
    next => cases h
  · rintro ⟨haddress, rfl⟩
    have hempty : t.strip.isEmpty = false := by
      cases ht : t.strip with
      | cons c rest => rfl
      | nil =>
        have hlength := haddress.length_eq
        rw [ht] at hlength
        cases hlength
    simp only [readDevice, hempty, hdevice.2 haddress, Text.toUpper_of_ascii haddress.value_lt]
    rfl

/-- Every refusal is that of an address. -/
theorem kind_of_readDevice {t : Text} {p : AddressProblem} (h : readDevice t = .error p) :
    p.fault.kind = .address := by
  simp [AddressProblem.fault, isShowable_of_readDevice h]

/-- An address is in its form if it is in capitals and there are no blanks around it. -/
theorem readDevice_toAsciiUpper {t : Text} (h : IsDeviceAddress t) :
    readDevice t.toAsciiUpper = .ok t.toAsciiUpper := by
  have hform : IsDeviceAddress t.toAsciiUpper := (isDeviceAddress_toAsciiUpper_iff t).2 h
  have hstrip : t.toAsciiUpper.strip = t.toAsciiUpper := Text.trim_eq_self hform.isBlank_eq_false
  have hagain : t.toAsciiUpper.toAsciiUpper = t.toAsciiUpper := by
    rw [Text.toAsciiUpper, Text.toAsciiUpper, List.map_map]
    exact List.map_congr_left fun c _ => c.toAsciiUpper_toAsciiUpper
  rw [readDevice_eq_ok_iff, hstrip]
  exact ⟨hform, hagain.symm⟩

/-- **Device addresses have one form.** A text is read exactly if it is an address but for the blanks
around it, and is refused as an address if not. What comes of it is the address in capitals, which is read
again as it is. And two texts are read as the same exactly if one of them is an address and the other
differs from it in nothing but the blanks around it and the case of hexadecimal letters. -/
theorem readDevice_has_one_form (t : Text) :
    ((∃ device, readDevice t = .ok device) ↔ IsDeviceAddress t.strip) ∧
      (¬ IsDeviceAddress t.strip → ∃ p, readDevice t = .error p ∧ p.fault.kind = .address) ∧
      (∀ device, readDevice t = .ok device →
        device = t.strip.toAsciiUpper ∧ device.length = 17 ∧ readDevice device = .ok device) ∧
      ∀ u, (∃ device, readDevice t = .ok device ∧ readDevice u = .ok device) ↔
        IsDeviceAddress t.strip ∧ SameButCase t.strip u.strip := by
  refine ⟨?_, fun hno => ?_, fun device hdevice => ?_, fun u => ?_⟩
  · constructor
    · rintro ⟨device, hdevice⟩
      exact (readDevice_eq_ok_iff.1 hdevice).1
    · exact fun h => ⟨_, readDevice_eq_ok_iff.2 ⟨h, rfl⟩⟩
  · cases hread : readDevice t with
    | error p => exact ⟨p, rfl, kind_of_readDevice hread⟩
    | ok device => exact absurd (readDevice_eq_ok_iff.1 hread).1 hno
  · obtain ⟨haddress, rfl⟩ := readDevice_eq_ok_iff.1 hdevice
    exact ⟨rfl, by rw [Text.toAsciiUpper, List.length_map, haddress.length_eq],
      readDevice_toAsciiUpper haddress⟩
  · constructor
    · rintro ⟨device, ht, hu⟩
      obtain ⟨haddress, rfl⟩ := readDevice_eq_ok_iff.1 ht
      exact ⟨haddress, (sameButCase_iff (fun _ => haddress.sign_of_mem) _).2
        (readDevice_eq_ok_iff.1 hu).2⟩
    · rintro ⟨haddress, hsame⟩
      have hcapitals : t.strip.toAsciiUpper = u.strip.toAsciiUpper :=
        (sameButCase_iff (fun _ => haddress.sign_of_mem) _).1 hsame
      have hother : IsDeviceAddress u.strip := by
        rwa [← isDeviceAddress_toAsciiUpper_iff, ← hcapitals, isDeviceAddress_toAsciiUpper_iff]
      exact ⟨_, readDevice_eq_ok_iff.2 ⟨haddress, rfl⟩, readDevice_eq_ok_iff.2 ⟨hother, hcapitals⟩⟩

example : readDevice "\u2003ac:3f:A4:12:34:56\n" = .ok "AC:3F:A4:12:34:56" := by rfl

end Address

end LabelPress
