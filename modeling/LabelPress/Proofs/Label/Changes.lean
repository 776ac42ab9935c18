import LabelPress.Proofs.Label.Imprint
import Mathlib.Data.List.Nodup

/-!
# What a change of a label changes

The lines of a document are laid out section by section (`lines_eq`), and each entry of a label is
looked at in one place of them only, the bar code in two. So if one entry is changed, the lines above
and below its place stay as they are: a flag or a badge is a stretch of lines that is there or not, and
any other entry has a line of its own (`lines_of_changes`).
-/

namespace LabelPress

namespace Label

open Zpl

/-- The lines of the document of a label, as they are put into it one after the other. -/
def lines (label : Label) (now : Moment) : List Text := Zpl.lines (label.document now)

/-! ## The lines of the layout -/

/-- The line of a text in the centre column. -/
def centredLine (y : Int) (text : Text) : Text :=
  Element.origin 125 y ++ "^FB" ++ Element.numbers [360, 1, 0] ++ "," ++ "C" ++ ",0^FD" ++ text
    ++ "^FS"

/-- The line of a text at a place of its own. -/
def placedLine (x y : Int) (text : Text) : Text :=
  Element.origin x y ++ "^FD" ++ text ++ "^FS"

/-- The line of the bar code's value, which stands below the one that gives its place. -/
def barcodeLine (value : Text) : Text := "^FD" ++ value ++ "^FS"

/-- The lines of a badge. -/
def badgeLines : Option Int → List Text
  | none => []
  | some n => ["^FO0,0^GC104,104,155,B^FS", "^CF0,86", "^FO32,22^FR^FD" ++ Text.ofInt n ++ "^FS"]

/-- The line of a flag's box and the line of the letter in it. -/
def boxLines (flag : Flag) : List Text :=
  [Element.origin 505 flag.top ++ "^GB100,100,2" ++ "^FS", placedLine 525 (flag.top + 30) flag.code]

/-- The lines of the boxes of the flags that are set, from top to bottom. -/
def columnLines (set : Flag → Bool) : List Text := (Flag.column.filter set).flatMap boxLines

/-- The lines of the centre column. -/
def centreLines (label : Label) : List Text :=
  ["^CF0,90", centredLine 52 label.toteId.plain, "^CF0,50", centredLine 142 label.due.clock.dialText,
    "^CF0,45", centredLine 202 label.order.label, centredLine 252 label.customer.plain, "^CF0,35",
    centredLine 302 label.orderNumber.plain, "^BY3,3,100", "^FO145,352^BCN,100,N,N,N",
    barcodeLine label.barcode.plain, "^CF0,40", centredLine 462 label.band.label]

/-- The lines of the mark of a member's order. -/
def memberLines (set : Bool) : List Text := if set then ["^CF0,75", "^FO0,500^FDW+^FS"] else []

/-- The lines of the day and the time of printing. -/
def momentLines (now : Moment) : List Text :=
  [placedLine 0 579 now.date.dayMonthText, centredLine 579 now.time.dialText]

/-- The lines of the stamp. -/
def stampLines (label : Label) (now : Moment) : List Text :=
  Text.ofString "^CF0,30" :: (momentLines now ++ [placedLine 520 579 label.barcode.plain])

/-- The lines above the centre column. -/
def upperLines (label : Label) : List Text :=
  Text.ofString "^XA" :: (badgeLines label.badge? ++
    Text.ofString "^CF0,60" :: columnLines fun flag => (label.flag flag).isSet)

/-- **The lines of a document**, section by section. -/
theorem lines_eq (label : Label) (now : Moment) :
    label.lines now = label.upperLines ++ label.centreLines ++ memberLines label.walmartPlus.isSet
      ++ label.stampLines now ++ [Text.ofString "^XZ"] := by
  have hplaced (x y : Int) (text : Text) :
      Element.lines (.field x y text false) = [placedLine x y text] := by
    simp [Element.lines, placedLine, Text.when]
  have hbadge : Zpl.lines label.badgeSection = badgeLines label.badge? := by
    unfold badgeSection
    cases label.badge? <;> rfl
  have hbox (flag : Flag) : Zpl.lines (flagBox flag) = boxLines flag := by
    simp only [flagBox, Zpl.lines, List.flatMap_cons, hplaced]
    rfl
  have hboxes (set : Flag → Bool) (flags : List Flag) :
      Zpl.lines (flags.flatMap fun flag => if set flag then flagBox flag else []) =
        (flags.filter set).flatMap boxLines := by
    induction flags with
    | nil => rfl
    | cons flag flags ih =>
      rw [List.flatMap_cons, lines_append, ih]
      cases hset : set flag with
      | false =>
        rw [if_neg (by decide), List.filter_cons_of_neg (by simp [hset])]
        rfl
      | true =>
        rw [if_pos rfl, List.filter_cons_of_pos hset, List.flatMap_cons]
        exact congrArg (· ++ _) (hbox flag)
  have hcolumn : Zpl.lines label.flagSection =
      Text.ofString "^CF0,60" :: columnLines fun flag => (label.flag flag).isSet :=
    congrArg (Text.ofString "^CF0,60" :: ·) (hboxes (fun flag => (label.flag flag).isSet) Flag.column)
  have hcentre : Zpl.lines label.centreSection = label.centreLines := rfl
  have hmember : Zpl.lines label.memberSection = memberLines label.walmartPlus.isSet := by
    unfold memberSection memberLines
    split <;> rfl
  have hstamp : Zpl.lines (label.stampSection now) = label.stampLines now := by
    simp only [stampSection, Zpl.lines, List.flatMap_cons, hplaced]
    rfl
  have hdocument : label.lines now = Text.ofString "^XA" :: Zpl.lines (label.badgeSection ++
      label.flagSection ++ label.centreSection ++ label.memberSection ++ label.stampSection now
      ++ [.stop]) := rfl
  rw [hdocument]
  simp only [lines_append, hbadge, hcolumn, hcentre, hmember, hstamp]
  simp [upperLines, Zpl.lines, Element.lines]

/-! ## Changes -/

/-- A label with other entries for the flags of the column. -/
def withColumn (label : Label) (entries : Flag → Entry) : Label :=
  { label with
    bagged := entries .bagged
    heavy := entries .heavy
    fragile := entries .fragile
    substitution := entries .substitution
    alcohol := entries .alcohol }

/-- A label with another entry for a flag of the column. -/
def withFlag (label : Label) (flag : Flag) (e : Entry) : Label :=
  label.withColumn fun other => if other = flag then e else label.flag other

/-- The entries of a label that have a line of the centre column to themselves. -/
inductive Centred where
  | toteId
  | order
  | customer
  | orderNumber
  | band
  deriving DecidableEq, Repr

namespace Centred

/-- A label with another entry in the centre column. -/
def put (label : Label) : Centred → Entry → Label
  | .toteId, e => { label with toteId := e }
  | .order, e => { label with order := e }
  | .customer, e => { label with customer := e }
  | .orderNumber, e => { label with orderNumber := e }
  | .band, e => { label with band := e }

/-- The line of an entry. -/
def line : Centred → Entry → Text
  | .toteId, e => centredLine 52 e.plain
  | .order, e => centredLine 202 e.label
  | .customer, e => centredLine 252 e.plain
  | .orderNumber, e => centredLine 302 e.plain
  | .band, e => centredLine 462 e.label

/-- How many lines of the centre column stand above it. -/
def place : Centred → Nat
  | .toteId => 1
  | .order => 5
  | .customer => 6
  | .orderNumber => 8
  | .band => 13

end Centred

variable {label : Label} {now : Moment}

theorem flag_withColumn (label : Label) (entries : Flag → Entry) :
    (label.withColumn entries).flag = entries := by
  funext flag
  cases flag <;> rfl

/-- The letters of the column are put between two fixed lines. -/
theorem lines_withColumn (label : Label) (now : Moment) :
    ∃ above below, ∀ entries : Flag → Entry, (label.withColumn entries).lines now =
      above ++ [Text.ofString "^CF0,60"] ++ columnLines (fun flag => (entries flag).isSet)
        ++ [Text.ofString "^CF0,90"] ++ below := by
  refine ⟨Text.ofString "^XA" :: badgeLines label.badge?, label.centreLines.tail
    ++ memberLines label.walmartPlus.isSet ++ label.stampLines now ++ [Text.ofString "^XZ"],
    fun entries => ?_⟩
  have hcentre : (label.withColumn entries).centreLines =
      Text.ofString "^CF0,90" :: label.centreLines.tail := rfl
  have hbadge : (label.withColumn entries).badge? = label.badge? := rfl
  have hmember : (label.withColumn entries).walmartPlus = label.walmartPlus := rfl
  have hstamp : (label.withColumn entries).stampLines now = label.stampLines now := rfl
  rw [lines_eq, upperLines, flag_withColumn, hcentre, hbadge, hmember, hstamp]
  simp

/-- What stands above and below one flag in the column does not depend on it. -/
theorem columnLines_update (set : Flag → Bool) (flag : Flag) :
    ∃ above below, ∀ b : Bool, columnLines (fun other => if other = flag then b else set other) =
      above ++ (if b then boxLines flag else []) ++ below := by
  have hmem : flag ∈ Flag.column := by cases flag <;> decide
  have hnodup : Flag.column.Nodup := by decide
  obtain ⟨higher, lower, hcolumn⟩ := List.append_of_mem hmem
  rw [hcolumn, List.nodup_middle, List.nodup_cons, List.mem_append, not_or] at hnodup
  obtain ⟨⟨hhigher, hlower⟩, -⟩ := hnodup
  have hothers (b : Bool) {flags : List Flag} (hflags : flag ∉ flags) :
      flags.filter (fun other => if other = flag then b else set other) = flags.filter set := by
    refine List.filter_congr fun other hother => ?_
    have hne : other ≠ flag := fun heq => hflags (heq ▸ hother)
    rw [if_neg hne]
  refine ⟨(higher.filter set).flatMap boxLines, (lower.filter set).flatMap boxLines, fun b => ?_⟩
  rw [columnLines, hcolumn, List.filter_append, hothers b hhigher, List.filter_cons, if_pos rfl,
    hothers b hlower]
  cases b <;> simp

/-- An entry of the centre column that nothing else shows has a line of its own. -/
theorem lines_of_centre (label : Label) {α : Type} {change : α → Label} {line : α → Text} (place : Nat)
    (hcentre : ∀ a, (change a).centreLines =
      label.centreLines.take place ++ [line a] ++ label.centreLines.drop (place + 1))
    (hrest : ∀ a, (change a).upperLines = label.upperLines ∧
      (change a).walmartPlus = label.walmartPlus ∧ (change a).stampLines now = label.stampLines now) :
    ∃ above below, ∀ a, (change a).lines now = above ++ [line a] ++ below := by
  refine ⟨label.upperLines ++ label.centreLines.take place, label.centreLines.drop (place + 1)
    ++ memberLines label.walmartPlus.isSet ++ label.stampLines now ++ [Text.ofString "^XZ"],
    fun a => ?_⟩
  obtain ⟨hupper, hmember, hstamp⟩ := hrest a
  rw [lines_eq, hupper, hcentre, hmember, hstamp]
  simp only [List.append_assoc]

/-- **What a change of a label changes.** Of the lines of its document,

* a flag of the column is the line of its box and the line of its letter, one after the other, where
  it is set, and the flags that are set stand in the order of the column between two fixed lines;
* a member's order is two lines right above the stamp;
* a badge is three lines right below the first line;
* the moment of printing is two lines of the stamp;
* the due time and each other entry of the centre column but the bar code is one line;
* the bar code is one line of the centre column and the last one of the stamp.

All that stands above, below and between does not depend on what is changed. -/
theorem lines_of_changes (label : Label) (now : Moment) :
    (∀ flag, ∃ above below, ∀ e : Entry, (label.withFlag flag e).lines now =
      above ++ (if e.isSet then boxLines flag else []) ++ below) ∧
    (∃ above below, ∀ entries : Flag → Entry, (label.withColumn entries).lines now =
      above ++ [Text.ofString "^CF0,60"] ++ columnLines (fun flag => (entries flag).isSet)
        ++ [Text.ofString "^CF0,90"] ++ below) ∧
    (∃ above, ∀ e : Entry, { label with walmartPlus := e }.lines now =
      above ++ memberLines e.isSet ++ label.stampLines now ++ [Text.ofString "^XZ"]) ∧
    (∃ below, ∀ e : Entry, { label with toteNumber := e }.lines now =
      [Text.ofString "^XA"] ++ badgeLines { label with toteNumber := e }.badge? ++ below) ∧
    (∃ above, ∀ moment : Moment, label.lines moment =
      above ++ [Text.ofString "^CF0,30"] ++ momentLines moment
        ++ [placedLine 520 579 label.barcode.plain, Text.ofString "^XZ"]) ∧
    (∃ above below, ∀ due : Due, { label with due := due }.lines now =
      above ++ [centredLine 142 due.clock.dialText] ++ below) ∧
    (∀ own : Centred, ∃ above below, ∀ e : Entry, (own.put label e).lines now =
      above ++ [own.line e] ++ below) ∧
    ∃ above between, ∀ e : Entry, { label with barcode := e }.lines now =
      above ++ [barcodeLine e.plain] ++ between
        ++ [placedLine 520 579 e.plain, Text.ofString "^XZ"] := by
  refine ⟨fun flag => ?_, lines_withColumn label now, ?_, ?_, ?_, ?_, fun own => ?_, ?_⟩
  · obtain ⟨above, below, hlines⟩ := lines_withColumn label now
    obtain ⟨higher, lower, hcolumn⟩ := columnLines_update (fun other => (label.flag other).isSet) flag
    refine ⟨above ++ [Text.ofString "^CF0,60"] ++ higher, lower ++ [Text.ofString "^CF0,90"] ++ below,
      fun e => ?_⟩
    have hset (other : Flag) : (if other = flag then e else label.flag other).isSet =
        if other = flag then e.isSet else (label.flag other).isSet := apply_ite Entry.isSet _ _ _
    rw [withFlag, hlines]
    simp only [hset, hcolumn, List.append_assoc]
  · exact ⟨label.upperLines ++ label.centreLines, fun e => lines_eq _ now⟩
  · refine ⟨Text.ofString "^CF0,60" :: columnLines (fun flag => (label.flag flag).isSet)
      ++ label.centreLines ++ memberLines label.walmartPlus.isSet ++ label.stampLines now
      ++ [Text.ofString "^XZ"], fun e => ?_⟩
    have hlower : { label with toteNumber := e }.centreLines = label.centreLines ∧
        { label with toteNumber := e }.stampLines now = label.stampLines now ∧
        { label with toteNumber := e }.flag = label.flag := by
      refine ⟨rfl, rfl, ?_⟩
      funext flag
      cases flag <;> rfl
    rw [lines_eq, upperLines, hlower.1, hlower.2.1, hlower.2.2]
    simp
  · refine ⟨label.upperLines ++ label.centreLines ++ memberLines label.walmartPlus.isSet,
      fun moment => ?_⟩
    rw [lines_eq, stampLines]
    simp
  · exact lines_of_centre label 3 (fun _ => rfl) fun _ => ⟨rfl, rfl, rfl⟩
  · refine lines_of_centre label own.place (fun e => ?_) fun e => ?_
    · cases own <;> rfl
    · cases own <;> exact ⟨rfl, rfl, rfl⟩
  · refine ⟨label.upperLines ++ label.centreLines.take 11, label.centreLines.drop 12
      ++ memberLines label.walmartPlus.isSet ++ Text.ofString "^CF0,30" :: momentLines now,
      fun e => ?_⟩
    have hcentre : { label with barcode := e }.centreLines =
        label.centreLines.take 11 ++ [barcodeLine e.plain] ++ label.centreLines.drop 12 := rfl
    have hupper : { label with barcode := e }.upperLines = label.upperLines := rfl
    rw [lines_eq, stampLines, hupper, hcentre]
    simp only [List.append_assoc, List.cons_append, List.nil_append]

end Label

end LabelPress
