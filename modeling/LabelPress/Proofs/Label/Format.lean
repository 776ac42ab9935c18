import LabelPress.Proofs.Label.Imprint
import LabelPress.Proofs.Zpl.Commands

/-!
# The format of a label

A document whose texts hold no command of their own is one well-formed format, and the data of its
fields are what the label says, in the order of the layout (`commands_compile`). Which commands stand
around the data is settled by the sections that are there, so that two labels with the same sections
differ in the data only.
-/

namespace LabelPress

namespace Label

open Zpl

variable {a b : Label}

/-- The elements of a document between the two ends of its format. -/
def content (label : Label) (now : Moment) : List Element :=
  label.badgeSection ++ label.flagSection ++ label.centreSection ++ label.memberSection
    ++ label.stampSection now

/-- What the fields of a document show, in order. -/
def shown (label : Label) (now : Moment) : List Text :=
  label.badge?.toList.map Text.ofInt
    ++ (Flag.column.filter fun flag => (label.flag flag).isSet).map Flag.code
    ++ [label.toteId.plain, label.due.clock.dialText, label.order.label, label.customer.plain,
      label.orderNumber.plain, label.barcode.plain, label.band.label]
    ++ (if label.walmartPlus.isSet then [Text.ofString "W+"] else [])
    ++ [now.date.dayMonthText, now.time.dialText, label.barcode.plain]

/-- Whether two labels have the same sections: a badge both or neither, and the same flags. -/
structure SameSections (a b : Label) : Prop where
  badge : a.badge?.isSome = b.badge?.isSome
  flags : ∀ flag, (a.flag flag).isSet = (b.flag flag).isSet
  member : a.walmartPlus.isSet = b.walmartPlus.isSet

/-! ## What the sections hold -/

theorem isContent_content (label : Label) (now : Moment) :
    ∀ e ∈ label.content now, e.isContent = true := by
  have hbadge : ∀ e ∈ label.badgeSection, e.isContent = true := by
    unfold badgeSection
    cases label.badge? with
    | none => exact List.forall_mem_nil _
    | some n => simp [Element.isContent]
  have hcolumn : ∀ e ∈ label.flagSection, e.isContent = true := by
    refine List.forall_mem_cons.2 ⟨rfl, fun e he => ?_⟩
    obtain ⟨flag, -, hbox⟩ := List.mem_flatMap.1 he
    have hboth : ∀ e ∈ flagBox flag, e.isContent = true := by simp [flagBox, Element.isContent]
    split at hbox
    · exact hboth e hbox
    · cases hbox
  have hcentre : ∀ e ∈ label.centreSection, e.isContent = true := by
    simp [centreSection, centred, Element.isContent]
  have hmember : ∀ e ∈ label.memberSection, e.isContent = true := by
    unfold memberSection
    split
    · simp [Element.isContent]
    · exact List.forall_mem_nil _
  have hstamp : ∀ e ∈ label.stampSection now, e.isContent = true := by
    simp [stampSection, centred, Element.isContent]
  simp only [content, List.forall_mem_append]
  exact ⟨⟨⟨⟨hbadge, hcolumn⟩, hcentre⟩, hmember⟩, hstamp⟩

/-- The letters of the flags that have boxes, in the order of the boxes. -/
theorem values_boxes (set : Flag → Bool) (flags : List Flag) :
    (flags.flatMap fun f => if set f then flagBox f else []).flatMap Element.values =
      (flags.filter set).map Flag.code := by
  induction flags with
  | nil => rfl
  | cons f fs ih =>
    rw [List.flatMap_cons, List.flatMap_append, ih]
    cases hset : set f with
    | false => simp [hset]
    | true => simp [hset, flagBox, Element.values]

/-- **The data of a document are what its label shows.** -/
theorem values_content (label : Label) (now : Moment) :
    (label.content now).flatMap Element.values = label.shown now := by
  have hbadge : label.badgeSection.flatMap Element.values =
      label.badge?.toList.map Text.ofInt := by
    unfold badgeSection
    cases label.badge? <;> rfl
  have hcolumn : label.flagSection.flatMap Element.values =
      (Flag.column.filter fun flag => (label.flag flag).isSet).map Flag.code := by
    rw [flagSection, List.flatMap_cons]
    exact values_boxes (fun flag => (label.flag flag).isSet) Flag.column
  have hmember : label.memberSection.flatMap Element.values =
      if label.walmartPlus.isSet then [Text.ofString "W+"] else [] := by
    unfold memberSection
    split <;> rfl
  simp only [content, shown, List.flatMap_append, hbadge, hcolumn, hmember]
  rfl

/-- **Without their data, documents with the same sections are the same.** -/
theorem blank_content (h : a.SameSections b) (m n : Moment) :
    (a.content m).map Element.blank = (b.content n).map Element.blank := by
  have hbadge : a.badgeSection.map Element.blank = b.badgeSection.map Element.blank := by
    unfold badgeSection
    cases ha : a.badge? with
    | none =>
      have hb : b.badge? = none := by simpa [ha] using h.badge.symm
      rw [hb]
    | some n =>
      have hsome : b.badge?.isSome = true := by rw [← h.badge, ha, Option.isSome_some]
      obtain ⟨m, hb⟩ := Option.isSome_iff_exists.1 hsome
      rw [hb]
      rfl
  have hcolumn : a.flagSection = b.flagSection := by
    simp only [flagSection, h.flags]
  have hmember : a.memberSection = b.memberSection := by
    simp only [memberSection, h.member]
  simp only [content, List.map_append, hbadge, hcolumn, hmember]
  rfl

/-! ## The format -/

/-- **The document of a label is a well-formed format.** If none of the texts that the label prints
holds a caret or a tilde, the commands of its document are a format, the data of the fields are what
the label shows, and no other label with the same sections has any other commands around its data,
whenever either is printed. -/
theorem commands_compile (ha : ∀ t ∈ a.printed, .scalar '^' ∉ t ∧ .scalar '~' ∉ t)
    (now : Moment) :
    ∃ cs, commands? (a.compile now) = some cs ∧ .scalar '~' ∉ a.compile now ∧ IsFormat cs ∧
      data cs = a.shown now ∧
      ∀ (b : Label) (later : Moment), (∀ t ∈ b.printed, .scalar '^' ∉ t ∧ .scalar '~' ∉ t) →
        a.SameSections b → ∃ ds, commands? (b.compile later) = some ds ∧
          ds.map Command.erased = cs.map Command.erased := by
  have hread {c : Label} (hc : ∀ t ∈ c.printed, .scalar '^' ∉ t ∧ .scalar '~' ∉ t)
      (moment : Moment) :
      commands? (c.compile moment) = some (formatCommands (c.content moment)) := by
    refine commands?_render (isContent_content c moment) fun e he => ?_
    have hdocument : e ∈ c.document moment := .tail _ (List.mem_append_left _ he)
    exact not_mem_texts (.inr rfl) (fun t ht => (hc t ht).1) moment e hdocument
  refine ⟨_, hread ha now, fun htilde => ?_, isFormat_formatCommands (isContent_content a now), ?_,
    fun b later hb hsame => ⟨_, hread hb later, ?_⟩⟩
  · obtain ⟨t, ht, hmem⟩ := (mem_compile_iff (.inr (.inl rfl)) (by decide) now).1 htilde
    exact (ha t ht).2 hmem
  · rw [data_formatCommands, values_content]
  · rw [erased_formatCommands, erased_formatCommands, blank_content hsame now later]

/-- Two totes with different numbers, customers and due times have the same commands around their data,
and a line feed in a name is part of the data. -/
theorem commands_compile_of_two_totes :
    let now : Moment := ⟨⟨2024, 3, 1, by decide, by decide, by decide⟩, .midnight, none⟩
    let later : Moment := ⟨⟨2024, 12, 31, by decide, by decide, by decide⟩,
      ⟨13, 5, 0, 0, by decide, by decide, by decide, by decide⟩, none⟩
    let a : Label := {
      due := .time .midnight, toteNumber := .value (.int 8), customer := .value (.text "Ann\nLee"),
      heavy := .value (.bool false) }
    let b : Label := {
      due := .moment later, toteNumber := .value (.int 3), heavy := .value .null }
    (∀ t ∈ a.printed, .scalar '^' ∉ t ∧ .scalar '~' ∉ t) ∧
      (∀ t ∈ b.printed, .scalar '^' ∉ t ∧ .scalar '~' ∉ t) ∧ a.SameSections b ∧
      ∃ cs ds, commands? (a.compile now) = some cs ∧ commands? (b.compile later) = some ds ∧
        IsFormat cs ∧ data cs = a.shown now ∧ ds.map Command.erased = cs.map Command.erased ∧
        Text.ofString "Ann\nLee" ∈ data cs := by
  intro now later a b
  have ha : ∀ t ∈ a.printed, .scalar '^' ∉ t ∧ .scalar '~' ∉ t := by decide
  have hb : ∀ t ∈ b.printed, .scalar '^' ∉ t ∧ .scalar '~' ∉ t := by decide
  have hsame : a.SameSections b := ⟨by rfl, fun flag => by cases flag <;> rfl, by rfl⟩
  obtain ⟨cs, hcs, -, hformat, hdata, hothers⟩ := commands_compile ha now
  obtain ⟨ds, hds, herased⟩ := hothers b later hb hsame
  refine ⟨ha, hb, hsame, cs, ds, hcs, hds, hformat, hdata, herased, ?_⟩
  rw [hdata]
  decide

end Label

end LabelPress
