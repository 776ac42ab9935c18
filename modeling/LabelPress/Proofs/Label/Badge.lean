import LabelPress.Proofs.Label.Changes
import LabelPress.Proofs.Label.Description
import LabelPress.Proofs.Number.Rational

/-!
# The badge from description to paper

A tote number goes through three hands. The schema lets null and whole numbers through, the reader makes
a whole number of one in floating-point form, and the layout prints a badge for a whole number from 1 to
8. Each of them looks at the value in its own way; all that they see of it is which number it is
(`Value.number?`), and so a badge never gets lost between them (`badge_of_toteNumber`).

To change the tote number of a description is to change one entry of its table. What is said of that here
goes by what is found in the two tables (`Table.SameBut`): it does not matter where the entry stands.
-/

namespace LabelPress

/-! ## Numbers -/

namespace Value

variable {v : Value} {n : Int}

/-- The number that a value is, in whichever form it is held. -/
def number? : Value → Option ℚ
  | .int n => some n
  | .float x => x.toRat?
  | _ => none

/-- Whether a value is null or a number without a fraction. -/
def IsNullOrWhole (v : Value) : Prop := v = .null ∨ ∃ n : Int, v.number? = some (n : ℚ)

/-- Whether a value is a number between two others. -/
def IsBetween (v : Value) (low high : ℚ) : Prop := ∃ q, v.number? = some q ∧ low ≤ q ∧ q ≤ high

/-- **The schema lets through what is null or a whole number.** -/
theorem isNullOrWhole_iff :
    v.IsNullOrWhole ↔ Schema.Kind.integer.has v = true ∨ Schema.Kind.null.has v = true := by
  rw [IsNullOrWhole, or_comm, Schema.has_integer_iff, Schema.has_null_iff]
  refine or_congr_left ?_
  cases v with
  | int n => exact ⟨fun _ => .inl ⟨n, rfl⟩, fun _ => ⟨n, rfl⟩⟩
  | float x => simp [number?, Binary64.toInt?_eq_some_iff]
  | _ => simp [number?]

/-- **What is read of a tote number is the whole number that it is.** -/
theorem int?_readToteNumber :
    (Entry.value (Description.readToteNumber v)).int? = some n ↔ v.number? = some (n : ℚ) := by
  cases v with
  | int m => simp [Description.readToteNumber, Entry.int?, number?]
  | float x =>
    rw [number?, ← Binary64.toInt?_eq_some_iff, Description.readToteNumber]
    cases x.toInt? <;> simp [Entry.int?]
  | _ => simp [Description.readToteNumber, Entry.int?, number?]

end Value

/-! ## Documents -/

namespace Label

variable {label : Label} {now : Moment} {e : Entry} {n : Int} {number : Text}

/-- A label with another entry for the tote number. -/
def withToteNumber (label : Label) (e : Entry) : Label := { label with toteNumber := e }

/-- The lines of a document down to the font below its badge. -/
def headLines (label : Label) : List Text :=
  Text.ofString "^XA" :: badgeLines label.badge? ++ [Text.ofString "^CF0,60"]

/-- The lines below that. -/
def bodyLines (label : Label) (now : Moment) : List Text :=
  columnLines (fun flag => (label.flag flag).isSet) ++ label.centreLines
    ++ memberLines label.walmartPlus.isSet ++ label.stampLines now ++ [Text.ofString "^XZ"]

/-- Whether the three lines of a badge with a number in it stand right below the first line of a
document. -/
def HasBadge (number document : Text) : Prop :=
  [Text.ofString "^XA", Text.ofString "^FO0,0^GC104,104,155,B^FS", Text.ofString "^CF0,86",
    Text.ofString "^FO32,22^FR^FD" ++ number ++ Text.ofString "^FS"] <+: document.lines

theorem lines_eq_append_bodyLines (label : Label) (now : Moment) :
    label.lines now = label.headLines ++ label.bodyLines now := by
  rw [lines_eq, upperLines, headLines, bodyLines]
  simp

theorem bodyLines_withToteNumber (label : Label) (now : Moment) (e : Entry) :
    (label.withToteNumber e).bodyLines now = label.bodyLines now := by
  have hflag : (label.withToteNumber e).flag = label.flag := by
    funext flag
    cases flag <;> rfl
  rw [bodyLines, hflag]
  rfl

theorem lineFeed_not_mem_headLines (label : Label) : ∀ l ∈ label.headLines, .scalar '\n' ∉ l := by
  unfold headLines
  cases label.badge? with
  | none => decide
  | some n =>
    have hn : .scalar '\n' ∉ Text.ofInt n := Text.not_mem_ofInt rfl (by decide) n
    simp only [badgeLines, List.cons_append, List.nil_append, List.forall_mem_cons, List.mem_append,
      not_or]
    exact ⟨by decide, by decide, by decide, ⟨⟨by decide, hn⟩, by decide⟩, by decide,
      List.forall_mem_nil _⟩

/-- The first lines of a document are these, whatever the texts below them hold. -/
theorem headLines_prefix_lines (label : Label) (now : Moment) :
    label.headLines <+: (label.compile now).lines := by
  have hcompile : label.compile now = Text.join "\n" (label.lines now) := rfl
  have hrest : label.bodyLines now ≠ [] := by simp [bodyLines]
  rw [hcompile, lines_eq_append_bodyLines]
  exact ⟨_, (Text.splitOn_join_append hrest label.lineFeed_not_mem_headLines).symm⟩

/-- **A document has a badge exactly if its label has a number for it**, and with that number. -/
theorem hasBadge_compile_iff :
    HasBadge number (label.compile now) ↔ ∃ n, label.badge? = some n ∧ number = Text.ofInt n := by
  obtain ⟨below, hlines⟩ := label.headLines_prefix_lines now
  rw [HasBadge, ← hlines, headLines]
  cases label.badge? with
  | none =>
    have hfont : Text.ofString "^FO0,0^GC104,104,155,B^FS" ≠ Text.ofString "^CF0,60" := by decide
    simp [badgeLines, hfont]
  | some n => simp [badgeLines]

theorem badge?_withToteNumber_iff :
    (label.withToteNumber e).badge? = some n ↔ e.int? = some n ∧ 1 ≤ n ∧ n ≤ 8 := by
  simp [badge?, withToteNumber, Option.filter_eq_some_iff]

end Label

/-! ## Descriptions -/

namespace Description

open Schema Label

variable {d e : Table} {label : Label} {now : Moment} {v : Value} {document : Text}

/-- The value at the tote number of a description. To give none is to give null. -/
def givenToteNumber (d : Table) : Value := (d.get? "tote_number").getD .null

/-- A label with the tote number that is read of a value. -/
def withRead (label : Label) (v : Value) : Label := label.withToteNumber (.value (readToteNumber v))

theorem putFlag_withToteNumber (label : Label) (flag : Text × Value) (e : Entry) :
    putFlag (label.withToteNumber e) flag = (putFlag label flag).withToteNumber e := by
  obtain ⟨name, v⟩ := flag
  unfold putFlag
  repeat' split
  all_goals rfl

theorem foldl_putFlag_withToteNumber (fs : Table) (label : Label) (e : Entry) :
    fs.foldl putFlag (label.withToteNumber e) = (fs.foldl putFlag label).withToteNumber e := by
  induction fs generalizing label with
  | nil => rfl
  | cons flag fs ih => rw [List.foldl_cons, putFlag_withToteNumber, ih, List.foldl_cons]

/-- **A table that differs in its tote number only** is read as the same label but for that. -/
theorem ofEntries_of_sameBut (h : Table.SameBut "tote_number" d e) (hd : ofEntries d = .ok label) :
    ofEntries e = .ok (withRead label (givenToteNumber e)) := by
  have hname (name : Text) (hne : name ≠ "tote_number") : e.get? name = d.get? name :=
    (h name hne).symm
  have htote : ((e.get? "tote_number").map (Entry.value ∘ readToteNumber)).getD (.value .null) =
      .value (readToteNumber (givenToteNumber e)) := by
    unfold givenToteNumber
    cases e.get? "tote_number" <;> rfl
  rw [ofEntries_eq] at hd ⊢
  simp only [textAt, choiceAt, flagsAt, entryAt, htote, hname "due_time" (by decide),
    hname "order_type" (by decide), hname "temperature_band" (by decide),
    hname "tote_id_text" (by decide), hname "customer_name" (by decide),
    hname "full_order_number" (by decide), hname "tote_barcode_id" (by decide),
    hname "flags" (by decide)] at hd ⊢
  obtain ⟨due, hdue, hd⟩ := bind_eq_ok_iff.1 hd
  obtain ⟨order, horder, hd⟩ := bind_eq_ok_iff.1 hd
  obtain ⟨band, hband, hd⟩ := bind_eq_ok_iff.1 hd
  obtain rfl := Except.ok.inj hd
  rw [withRead, ← foldl_putFlag_withToteNumber]
  exact bind_eq_ok_iff.2 ⟨due, hdue, bind_eq_ok_iff.2 ⟨order, horder, bind_eq_ok_iff.2
    ⟨band, hband, rfl⟩⟩⟩

/-- It keeps the rules if its tote number does. -/
theorem fits_iff_of_sameBut (h : Table.SameBut "tote_number" d e) (hd : Fits d) :
    Fits e ↔ (givenToteNumber e).IsNullOrWhole := by
  have hname (name : Text) (hne : name ≠ "tote_number") : e.get? name = d.get? name :=
    (h name hne).symm
  have hrule : (∀ v, e.get? "tote_number" = some v →
      Kind.integer.has v = true ∨ Kind.null.has v = true) ↔ (givenToteNumber e).IsNullOrWhole := by
    unfold givenToteNumber
    cases e.get? "tote_number" with
    | none => simp [Value.IsNullOrWhole]
    | some v => simp [Value.isNullOrWhole_iff]
  refine ⟨fun he => hrule.1 he.toteNumber, fun hgiven => ?_⟩
  exact {
    names := fun name hmem => by
      by_cases hne : name = "tote_number"
      · rw [hne]
        decide
      · refine hd.names name (Classical.byContradiction fun hnot => ?_)
        rw [← Table.get?_eq_none_iff, ← hname name hne, Table.get?_eq_none_iff] at hnot
        exact hnot hmem
    due := by
      rw [hname "due_time" (by decide)]
      exact hd.due
    toteNumber := hrule.2 hgiven
    texts := fun p hp => by
      have hne : ∀ p ∈ texts, p.1 ≠ "tote_number" := by decide
      rw [hname p.1 (hne p hp)]
      exact hd.texts p hp
    order := by
      rw [hname "order_type" (by decide)]
      exact hd.order
    band := by
      rw [hname "temperature_band" (by decide)]
      exact hd.band
    flags := by
      rw [hname "flags" (by decide)]
      exact hd.flags }

/-- Whether a description is accepted, from whatever source it comes, and makes a document. -/
def PrintsAs (d : Table) (now : Moment) (document : Text) : Prop :=
  ∀ tree source, sourceValue tree source = .ok (.table d) →
    ∃ label, load tree source = .ok label ∧ label.compile now = document

theorem printsAs_iff : PrintsAs d now document ↔
    ∃ label, Fits d ∧ ofEntries d = .ok label ∧ label.compile now = document := by
  constructor
  · intro h
    obtain ⟨label, hlabel, rfl⟩ := h [] (.value (.table d)) rfl
    obtain ⟨hfits, hentries⟩ := ofValue_table_eq_ok_iff.1 hlabel
    exact ⟨label, hfits, hentries, rfl⟩
  · rintro ⟨label, hfits, hentries, rfl⟩ tree source hsource
    exact ⟨label, (load_of_sourceValue hsource).trans (ofValue_table_eq_ok_iff.2 ⟨hfits, hentries⟩),
      rfl⟩

/-- **What a description prints once its tote number is another**, or once it has none. -/
theorem printsAs_iff_of_sameBut (h : Table.SameBut "tote_number" d e) (hfits : Fits d)
    (hd : ofEntries d = .ok label) :
    PrintsAs e now document ↔ (givenToteNumber e).IsNullOrWhole ∧
      document = (withRead label (givenToteNumber e)).compile now := by
  rw [printsAs_iff, ofEntries_of_sameBut h hd, fits_iff_of_sameBut h hfits]
  simp [eq_comm]

theorem printsAs_put_iff (hfits : Fits d) (hd : ofEntries d = .ok label) :
    PrintsAs (d.put "tote_number" v) now document ↔
      v.IsNullOrWhole ∧ document = (withRead label v).compile now := by
  rw [printsAs_iff_of_sameBut (Table.sameBut_put _ v d) hfits hd, givenToteNumber,
    Table.get?_put_self, Option.getD_some]

theorem printsAs_without_iff (hfits : Fits d) (hd : ofEntries d = .ok label) :
    PrintsAs (d.without "tote_number") now document ↔
      document = (withRead label .null).compile now := by
  rw [printsAs_iff_of_sameBut (Table.sameBut_without _ d) hfits hd, givenToteNumber,
    Table.get?_without_self, Option.getD_none]
  exact and_iff_right (.inl rfl)

/-! ## The badge of a tote number that has been read -/

/-- **Nothing but its badge tells of the tote number of a label.** -/
theorem compile_withRead_congr {w : Value}
    (h : (withRead label v).badge? = (withRead label w).badge?) (now : Moment) :
    (withRead label v).compile now = (withRead label w).compile now := by
  have hlines : (withRead label v).lines now = (withRead label w).lines now := by
    rw [lines_eq_append_bodyLines, lines_eq_append_bodyLines, headLines, headLines, h, withRead,
      withRead, bodyLines_withToteNumber, bodyLines_withToteNumber]
  exact congrArg (Text.join "\n") hlines

/-- The number in a badge is the tote number that was given, if that is from 1 to 8. -/
theorem badge?_withRead_iff {n : Int} :
    (withRead label v).badge? = some n ↔ v.number? = some (n : ℚ) ∧ 1 ≤ n ∧ n ≤ 8 :=
  badge?_withToteNumber_iff.trans (and_congr_left' Value.int?_readToteNumber)

/-- So a number in one form has the badge that it has in the other. -/
theorem badge?_withRead_congr {w : Value} (h : v.number? = w.number?) :
    (withRead label v).badge? = (withRead label w).badge? := by
  ext n
  rw [badge?_withRead_iff, badge?_withRead_iff, h]

theorem badge?_withRead_of_not_isBetween (h : ¬ v.IsBetween 1 8) :
    (withRead label v).badge? = none := by
  refine Option.eq_none_iff_forall_ne_some.2 fun n hn => h ?_
  obtain ⟨hv, hlow, hhigh⟩ := badge?_withRead_iff.1 hn
  exact ⟨n, hv, by exact_mod_cast hlow, by exact_mod_cast hhigh⟩

/-- A badge shows the one digit of the number. -/
theorem hasBadge_withRead_iff {number : Text} :
    HasBadge number ((withRead label v).compile now) ↔
      ∃ n : ℕ, v.number? = some (n : ℚ) ∧ 1 ≤ n ∧ n ≤ 8 ∧ number = [.ofDigit n] := by
  rw [hasBadge_compile_iff]
  constructor
  · rintro ⟨n, hn, rfl⟩
    obtain ⟨hv, hlow, hhigh⟩ := badge?_withRead_iff.1 hn
    lift n to ℕ using by omega
    exact ⟨n, hv, by omega, by omega, Text.ofNat_of_lt_ten (by omega)⟩
  · rintro ⟨n, hv, hlow, hhigh, rfl⟩
    refine ⟨n, badge?_withRead_iff.2 ⟨hv, by omega, by omega⟩, ?_⟩
    exact (Text.ofNat_of_lt_ten (by omega)).symm

theorem exists_hasBadge_withRead_iff (hv : v.IsNullOrWhole) :
    (∃ number, HasBadge number ((withRead label v).compile now)) ↔ v.IsBetween 1 8 := by
  simp only [hasBadge_withRead_iff]
  constructor
  · rintro ⟨_, n, hn, hlow, hhigh, -⟩
    exact ⟨n, hn, by exact_mod_cast hlow, by exact_mod_cast hhigh⟩
  · rintro ⟨q, hq, hlow, hhigh⟩
    obtain rfl | ⟨n, hn⟩ := hv
    · cases hq
    · obtain rfl : (n : ℚ) = q := Option.some.inj (hn.symm.trans hq)
      have hlow : 1 ≤ n := by exact_mod_cast hlow
      have hhigh : n ≤ 8 := by exact_mod_cast hhigh
      lift n to ℕ using by omega
      exact ⟨_, n, by simpa using hn, by omega, by omega, rfl⟩

/-- **The badge from description to paper.** Let a description be accepted, and let another value stand
at its tote number, or let none stand there.

* It is accepted with that value exactly if the value is null or a whole number, in either form and of
  any size. The document of the description as it is is the one that it has with its own value.
* The document has the three lines of a badge right below its first line exactly if the value is a number
  from 1 to 8, and what they show is the digit of that number.
* If it is not such a number, the document is the one with null there, and the one with nothing there.
* Where a number in floating-point form is a whole one, it makes the same documents as that one. -/
theorem badge_of_toteNumber {tree : FileTree} {source : Source} (h : load tree source = .ok label)
    (now : Moment) :
    ∃ d : Table, sourceValue tree source = .ok (.table d) ∧
      (∀ v, (∃ document, PrintsAs (d.put "tote_number" v) now document) ↔ v.IsNullOrWhole) ∧
      (∀ v document, PrintsAs (d.put "tote_number" v) now document →
        (d.get? "tote_number" = some v → document = label.compile now) ∧
        ((∃ number, HasBadge number document) ↔ v.IsBetween 1 8) ∧
        (∀ number, HasBadge number document →
          ∃ n : ℕ, v.number? = some (n : ℚ) ∧ number = [.ofDigit n]) ∧
        (¬ v.IsBetween 1 8 → PrintsAs (d.put "tote_number" .null) now document ∧
          PrintsAs (d.without "tote_number") now document)) ∧
      ∀ (n : Int) (x : Binary64), x.toRat? = some (n : ℚ) → ∀ document,
        (PrintsAs (d.put "tote_number" (.float x)) now document ↔
          PrintsAs (d.put "tote_number" (.int n)) now document) := by
  obtain ⟨d, hd, hfits, hentries⟩ := exists_table_of_load h
  refine ⟨d, hd, fun v => ?_, fun v document hprints => ?_, fun n x hx document => ?_⟩
  · simp only [printsAs_put_iff hfits hentries, exists_and_left, exists_eq, and_true]
  · obtain ⟨hv, hdocument⟩ := (printsAs_put_iff hfits hentries).1 hprints
    refine ⟨fun hown => ?_, ?_, fun number hbadge => ?_, fun hnot => ?_⟩
    · -- With its own value the description is itself.
      rw [Table.put_eq_self hown] at hprints
      obtain ⟨own, hload, hcompile⟩ := hprints tree source hd
      obtain rfl := Except.ok.inj (h.symm.trans hload)
      exact hcompile.symm
    · rw [hdocument]
      exact exists_hasBadge_withRead_iff hv
    · rw [hdocument, hasBadge_withRead_iff] at hbadge
      obtain ⟨n, hn, -, -, hnumber⟩ := hbadge
      exact ⟨n, hn, hnumber⟩
    · have hnull : document = (withRead label .null).compile now := by
        rw [hdocument]
        exact compile_withRead_congr (badge?_withRead_of_not_isBetween hnot) now
      exact ⟨(printsAs_put_iff hfits hentries).2 ⟨.inl rfl, hnull⟩,
        (printsAs_without_iff hfits hentries).2 hnull⟩
  · have hfloat : (Value.float x).IsNullOrWhole := .inr ⟨n, hx⟩
    have hint : (Value.int n).IsNullOrWhole := .inr ⟨n, rfl⟩
    have hsame : (Value.float x).number? = (Value.int n).number? := hx
    have hbadge : (withRead label (.float x)).badge? = (withRead label (.int n)).badge? :=
      badge?_withRead_congr hsame
    rw [printsAs_put_iff hfits hentries, printsAs_put_iff hfits hentries, and_iff_right hfloat,
      and_iff_right hint, compile_withRead_congr hbadge now]

/-- A description with the number 5 in floating-point form: its document has the badge of 5, and is the
one that it has with the whole number in its place. -/
theorem badge_of_float_five :
    let source : Source := .text "\x7b\"due_time\":\"9:05\",\"tote_number\":5.0\x7d"
    let label : Label := {
      due := .time ⟨9, 5, 0, 0, by decide, by decide, by decide, by decide⟩
      toteNumber := .value (.int 5) }
    let now : Moment := ⟨⟨2024, 3, 1, by decide, by decide, by decide⟩, .midnight, none⟩
    let whole : Table := [("due_time", .text "9:05"), ("tote_number", .int 5)]
    load [] source = .ok label ∧ HasBadge "5" (label.compile now) ∧
      PrintsAs whole now (label.compile now) := by
  intro source label now whole
  let x : Binary64 := .ofDecimal false 50 (-1)
  let d : Table := [("due_time", .text "9:05"), ("tote_number", .float x)]
  have hsource : sourceValue [] source = .ok (.table d) := by rfl
  have hload : load [] source = .ok label := by
    rw [load, hsource]
    rfl
  have hx : x.toRat? = some ((5 : Int) : ℚ) := Binary64.toInt?_eq_some_iff.1 rfl
  obtain ⟨d', hd', haccepted, hdocuments, hforms⟩ := badge_of_toteNumber hload now
  obtain rfl : d = d' := Value.table.inj (Except.ok.inj (hsource.symm.trans hd'))
  obtain ⟨document, hprints⟩ := (haccepted (.float x)).2 (.inr ⟨5, hx⟩)
  obtain ⟨hown, hbadge, hdigit, -⟩ := hdocuments (.float x) document hprints
  obtain rfl := hown rfl
  obtain ⟨number, hnumber⟩ := hbadge.2 ⟨(5 : Int), hx, by decide, by decide⟩
  obtain ⟨n, hn, rfl⟩ := hdigit number hnumber
  obtain rfl : n = 5 := by
    have hfive : ((5 : Int) : ℚ) = n := Option.some.inj (hx.symm.trans hn)
    exact_mod_cast hfive.symm
  exact ⟨hload, hnumber, (hforms 5 x hx _).1 hprints⟩

end Description

end LabelPress
