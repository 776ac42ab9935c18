import LabelPress.Proofs.Label.Description
import LabelPress.Proofs.Label.Imprint
import LabelPress.Proofs.Text.Utf8

/-!
# Labels that have bytes

A description may name any code point by an escape, and its free texts go from it to the document as
they are. No rule of the schema looks into them, and so a description is accepted whose document has
no bytes: one with half a surrogate pair in a free text (`encodes_iff`). Nothing else that it can say
has that effect.
-/

namespace LabelPress

namespace Label

/-- **A document has bytes exactly if the texts that it prints have**, at whatever moment it is
printed. -/
theorem isEncodable_compile_iff (label : Label) (now : Moment) :
    (label.compile now).IsEncodable ↔ ∀ t ∈ label.printed, t.IsEncodable := by
  have hmem {c : CodePoint} (hc : c.isScalar = false) :
      c ∈ label.compile now ↔ ∃ t ∈ label.printed, c ∈ t := by
    refine mem_compile_iff (.inr (.inr hc)) ?_ now
    rintro rfl
    cases hc
  simp only [Text.IsEncodable.iff_not_mem]
  constructor
  · intro h t ht c hc hct
    exact h c hc ((hmem hc).2 ⟨t, ht, hct⟩)
  · intro h c hc hcompile
    obtain ⟨t, ht, hct⟩ := (hmem hc).1 hcompile
    exact h t ht c hc hct

end Label

namespace Description

open Schema

variable {d : Table} {name : Text} {e standard : Entry} {label : Label}

/-! ## The texts of a label that has been read -/

/-- A flag is in none of the texts that a label prints. -/
theorem printed_foldl_putFlag (fs : Table) (label : Label) :
    (fs.foldl putFlag label).printed = label.printed := by
  have hput (label : Label) (flag : Text × Value) : (putFlag label flag).printed = label.printed := by
    obtain ⟨name, v⟩ := flag
    unfold putFlag
    repeat' split
    all_goals rfl
  induction fs generalizing label with
  | nil => rfl
  | cons flag fs ih => rw [List.foldl_cons, ih, hput]

/-- A free text has bytes if the one that is given has, or none is given. -/
theorem isEncodable_entryAt_iff (hfits : ∀ v, d.get? name = some v → Kind.text.has v = true)
    (hstandard : standard.plain.IsEncodable) :
    (entryAt d name id standard).plain.IsEncodable ↔
      ∀ t, d.get? name = some (.text t) → t.IsEncodable := by
  unfold entryAt
  cases hv : d.get? name with
  | none => exact ⟨fun _ _ => nofun, fun _ => hstandard⟩
  | some v =>
    obtain ⟨t, rfl⟩ := has_text_iff.1 (hfits v hv)
    refine ⟨fun h u hu => ?_, fun h => h t rfl⟩
    obtain rfl := Value.text.inj (Option.some.inj hu)
    exact h

/-- The words for a choice have bytes, whatever text has given it. -/
theorem isEncodable_of_choiceAt {α : Type} {read : Text → Except Problem α} {entry : α → Entry}
    (hwords : ∀ c, (entry c).label.IsEncodable) (hstandard : standard.label.IsEncodable)
    (h : choiceAt d name read entry standard = .ok e) : e.label.IsEncodable := by
  unfold choiceAt at h
  split at h
  · cases hread : read (textAt d name) with
    | error p => rw [hread] at h; cases h
    | ok c =>
      rw [hread] at h
      obtain rfl := Except.ok.inj h
      exact hwords c
  · obtain rfl := Except.ok.inj h
    exact hstandard

/-- **The texts that a label prints have bytes exactly if the free texts of its description have.** -/
theorem isEncodable_printed_iff (hfits : Fits d) (h : ofEntries d = .ok label) :
    (∀ t ∈ label.printed, t.IsEncodable) ↔
      ∀ p ∈ texts, ∀ t, d.get? p.1 = some (.text t) → t.IsEncodable := by
  rw [ofEntries_eq] at h
  obtain ⟨due, -, h⟩ := bind_eq_ok_iff.1 h
  obtain ⟨order, horder, h⟩ := bind_eq_ok_iff.1 h
  obtain ⟨band, hband, h⟩ := bind_eq_ok_iff.1 h
  obtain rfl := Except.ok.inj h
  have horderWords (o : OrderType) : (Entry.order o).label.IsEncodable := by
    cases o <;> decide
  have hbandWords (b : TemperatureBand) : (Entry.band b).label.IsEncodable := by
    cases b <;> decide
  -- Neither choice prints what was given for it, so only the four free texts are left.
  have hordered : order.label.IsEncodable := isEncodable_of_choiceAt horderWords (by decide) horder
  have hbanded : band.label.IsEncodable := isEncodable_of_choiceAt hbandWords (by decide) hband
  have hfree := hfits.texts
  simp only [texts, List.forall_mem_cons] at hfree
  obtain ⟨hid, hcustomer, hnumber, hbarcode, -⟩ := hfree
  rw [printed_foldl_putFlag]
  simp only [Label.printed, texts, List.forall_mem_cons, hordered, hbanded, true_and,
    List.not_mem_nil, false_imp_iff, implies_true, and_true]
  rw [isEncodable_entryAt_iff hid (by decide), isEncodable_entryAt_iff hcustomer (by decide),
    isEncodable_entryAt_iff hnumber (by decide), isEncodable_entryAt_iff hbarcode (by decide)]

/-! ## Descriptions that are accepted -/

/-- **When the document of an accepted description has bytes**: if no free text of the description
holds half a surrogate pair, and at every moment alike. -/
theorem encodes_iff {tree : FileTree} {source : Source} (h : load tree source = .ok label)
    (now : Moment) :
    ∃ d : Table, sourceValue tree source = .ok (.table d) ∧
      ((∃ bytes, Utf8.encode (label.compile now) = .ok bytes) ↔
        ∀ p ∈ texts, ∀ t, d.get? p.1 = some (.text t) → t.IsEncodable) := by
  obtain ⟨d, hd, hfits, hlabel⟩ := exists_table_of_load h
  refine ⟨d, hd, ?_⟩
  rw [Utf8.exists_encode_iff, Label.isEncodable_compile_iff]
  exact isEncodable_printed_iff hfits hlabel

/-- A name with an escape that is no half has bytes, and so has its document. -/
theorem encodes_escaped_name :
    let source : Source :=
      .text "\x7b\"due_time\":\"9:05\",\"customer_name\":\"\\u20ac\"\x7d"
    let label : Label := {
      due := .time ⟨9, 5, 0, 0, by decide, by decide, by decide, by decide⟩
      customer := .value (.text "€") }
    let now : Moment := ⟨⟨2024, 3, 1, by decide, by decide, by decide⟩, .midnight, none⟩
    load [] source = .ok label ∧ ∃ bytes, Utf8.encode (label.compile now) = .ok bytes := by
  intro source label now
  let d : Table := [("due_time", .text "9:05"), ("customer_name", .text "€")]
  have hsource : sourceValue [] source = .ok (.table d) := by rfl
  have hload : load [] source = .ok label := by
    rw [load, hsource]
    rfl
  obtain ⟨d', hd', hiff⟩ := encodes_iff hload now
  obtain rfl : d = d' := Value.table.inj (Except.ok.inj (hsource.symm.trans hd'))
  have htexts : ∀ p ∈ texts, ∀ t, d.get? p.1 = some (.text t) → t.IsEncodable := by
    simp only [texts, List.forall_mem_cons]
    have hnone {name : Text} (h : d.get? name = none) (t : Text)
        (ht : d.get? name = some (.text t)) : t.IsEncodable := by
      rw [h] at ht
      cases ht
    refine ⟨hnone rfl, fun t ht => ?_, hnone rfl, hnone rfl, List.forall_mem_nil _⟩
    obtain rfl := Value.text.inj (Option.some.inj ht)
    decide
  exact ⟨hload, hiff.2 htexts⟩

/-- **A name that is half a surrogate pair is accepted**, and whenever it is printed its document has no
bytes. -/
theorem accepts_surrogate_half :
    let source : Source :=
      .text "\x7b\"due_time\":\"9:05\",\"customer_name\":\"\\ud800\"\x7d"
    let label : Label := {
      due := .time ⟨9, 5, 0, 0, by decide, by decide, by decide, by decide⟩
      customer := .value (.text [.lone 0]) }
    load [] source = .ok label ∧
      ∀ now, ¬ ∃ bytes, Utf8.encode (label.compile now) = .ok bytes := by
  intro source label
  have hsource : sourceValue [] source = .ok
      (.table [("due_time", .text "9:05"), ("customer_name", .text [.lone 0])]) := by rfl
  have hload : load [] source = .ok label := by
    rw [load, hsource]
    rfl
  refine ⟨hload, fun now => ?_⟩
  rw [Utf8.exists_encode_iff, Label.isEncodable_compile_iff]
  decide

end Description

end LabelPress
