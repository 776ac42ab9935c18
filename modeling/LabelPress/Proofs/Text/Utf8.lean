import LabelPress.Text.Utf8

/-!
# Bytes of a text and back

A text has bytes unless it holds a surrogate half, and the bytes of a text are read as the text again.
A scalar value is written in one of four lengths, and its first byte tells which; so its bytes are
read in one piece whatever follows them, and the pieces of the whole are the code points of the text
in order.
-/

namespace LabelPress

/-! ## Texts that have bytes -/

/-- Whether every code point of a text has an encoded form. -/
def Text.IsEncodable (t : Text) : Prop := ∀ c ∈ t, c.isScalar = true

namespace Text.IsEncodable

instance : DecidablePred Text.IsEncodable := fun t =>
  inferInstanceAs (Decidable (∀ c ∈ t, c.isScalar = true))

theorem iff_not_mem {t : Text} : t.IsEncodable ↔ ∀ c, c.isScalar = false → c ∉ t := by
  constructor
  · intro h c hc hmem
    rw [h c hmem] at hc
    cases hc
  · intro h c hmem
    cases hc : c.isScalar with
    | true => rfl
    | false => exact absurd hmem (h c hc)

end Text.IsEncodable

namespace Utf8

/-- **A text has bytes exactly if it holds no surrogate half.** -/
theorem exists_encodeFrom_iff {t : Text} {position : Nat} :
    (∃ bytes, encodeFrom position t = .ok bytes) ↔ t.IsEncodable := by
  induction t generalizing position with
  | nil => exact ⟨fun _ => List.forall_mem_nil _, fun _ => ⟨_, rfl⟩⟩
  | cons c t ih =>
    rw [Text.IsEncodable, List.forall_mem_cons]
    cases c with
    | lone half => simp [encodeFrom, CodePoint.isScalar]
    | scalar c =>
      refine Iff.trans ?_ (and_iff_right rfl).symm
      rw [← Text.IsEncodable, ← @ih (position + 1)]
      cases h : encodeFrom (position + 1) t <;> simp [encodeFrom, h, Except.map]

theorem exists_encode_iff {t : Text} : (∃ bytes, encode t = .ok bytes) ↔ t.IsEncodable :=
  exists_encodeFrom_iff

/-- What bytes are read as with replacements has bytes itself. -/
theorem isEncodable_decodeReplacing (bytes : Bytes) : (decodeReplacing bytes).IsEncodable := by
  intro c hc
  obtain ⟨chunk, -, rfl⟩ := List.mem_map.1 hc
  cases chunk <;> rfl

/-! ## Bytes read as texts -/

/-- **The bytes of a scalar value are read as that value**, whatever follows them. -/
theorem front_encodeChar (c : Char) (rest : Bytes) :
    ∃ a tail, encodeChar c = a :: tail ∧ front a (tail ++ rest) = .char c (tail.length + 1) := by
  have hvalid : c.toNat < 0xD800 ∨ (0xDFFF < c.toNat ∧ c.toNat < 0x110000) := c.valid
  have hbyte {k : Nat} (h : k < 256) : (UInt8.ofNat k).toNat = k := UInt8.toNat_ofNat_of_lt' h
  have hchar {k : Nat} (h : k = c.toNat) : Char.ofNat k = c := h ▸ Char.ofNat_toNat c
  unfold encodeChar
  dsimp only
  generalize c.toNat = n at *
  split
  · refine ⟨_, [], rfl, ?_⟩
    simp only [front, hbyte (by omega : n < 256), if_pos ‹n < 0x80›, hchar rfl]
    rfl
  split
  · have ha := hbyte (by omega : 0xC0 + n / 0x40 < 256)
    have hb := hbyte (by omega : 0x80 + n % 0x40 < 256)
    refine ⟨_, [_], rfl, ?_⟩
    simp only [front, ha, List.cons_append, List.nil_append, isContinuation, hb]
    rw [if_neg (by omega), if_neg (by omega), if_pos (by omega), if_pos (by simp; omega),
      hchar (by omega)]
    rfl
  split
  · have ha := hbyte (by omega : 0xE0 + n / 0x1000 < 256)
    have hb := hbyte (by omega : 0x80 + n / 0x40 % 0x40 < 256)
    have hc := hbyte (by omega : 0x80 + n % 0x40 < 256)
    have hfollows : followsThree (0xE0 + n / 0x1000) (0x80 + n / 0x40 % 0x40) = true := by
      simp only [followsThree, Bool.and_eq_true, decide_eq_true_eq]
      constructor
      · split <;> omega
      · split <;> omega
    refine ⟨_, [_, _], rfl, ?_⟩
    simp only [front, ha, List.cons_append, List.nil_append, isContinuation, hb, hc]
    rw [if_neg (by omega), if_neg (by omega), if_neg (by omega), if_pos (by omega),
      if_pos hfollows, if_pos (by simp; omega), hchar (by omega)]
    rfl
  · have ha := hbyte (by omega : 0xF0 + n / 0x40000 < 256)
    have hb := hbyte (by omega : 0x80 + n / 0x1000 % 0x40 < 256)
    have hc := hbyte (by omega : 0x80 + n / 0x40 % 0x40 < 256)
    have hd := hbyte (by omega : 0x80 + n % 0x40 < 256)
    have hfollows : followsFour (0xF0 + n / 0x40000) (0x80 + n / 0x1000 % 0x40) = true := by
      simp only [followsFour, Bool.and_eq_true, decide_eq_true_eq]
      constructor
      · split <;> omega
      · split <;> omega
    refine ⟨_, [_, _, _], rfl, ?_⟩
    simp only [front, ha, List.cons_append, List.nil_append, isContinuation, hb, hc, hd]
    rw [if_neg (by omega), if_neg (by omega), if_neg (by omega), if_neg (by omega),
      if_pos hfollows, if_pos (by simp; omega), if_pos (by simp; omega), hchar (by omega)]
    rfl

/-- Bytes that belong to the chunk before are passed over. -/
theorem chunksFrom_append (skipped rest : Bytes) (position : Nat) :
    chunksFrom skipped.length position (skipped ++ rest) =
      chunksFrom 0 (position + skipped.length) rest := by
  induction skipped generalizing position with
  | nil => rfl
  | cons a skipped ih =>
    rw [List.cons_append, List.length_cons, chunksFrom, ih, Nat.add_assoc, Nat.add_comm 1]

theorem chunksFrom_encodeChar (c : Char) (rest : Bytes) (position : Nat) :
    chunksFrom 0 position (encodeChar c ++ rest) =
      .char c :: chunksFrom 0 (position + (encodeChar c).length) rest := by
  obtain ⟨a, tail, hbytes, hfront⟩ := front_encodeChar c rest
  rw [hbytes, List.cons_append, chunksFrom, hfront]
  dsimp only
  rw [Nat.add_sub_cancel, chunksFrom_append, List.length_cons, Nat.add_assoc, Nat.add_comm 1]

/-- **The bytes of a text are the text again**, chunk by chunk. -/
theorem decode_of_encodeFrom {t : Text} {position start : Nat} {bytes : Bytes}
    (h : encodeFrom position t = .ok bytes) :
    (chunksFrom 0 start bytes).mapM Chunk.toText = .ok t := by
  induction t generalizing position start bytes with
  | nil =>
    cases h
    rfl
  | cons c t ih =>
    cases c with
    | lone half => cases h
    | scalar c =>
      unfold encodeFrom at h
      cases ht : encodeFrom (position + 1) t with
      | error p => rw [ht] at h; cases h
      | ok rest =>
        rw [ht] at h
        cases h
        dsimp only
        rw [chunksFrom_encodeChar, List.mapM_cons, ih ht]
        rfl

theorem decode_of_encode {t : Text} {bytes : Bytes} (h : encode t = .ok bytes) :
    decode bytes = .ok t := decode_of_encodeFrom h

end Utf8

end LabelPress
