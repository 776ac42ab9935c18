import LabelPress.Label.Basic
import LabelPress.Text.Utf8
import LabelPress.Zpl.Basic

/-!
# The layout of a tote label

The layout of the 4 by 3 inch label is fixed: places, heights and sizes never depend on what is
printed. A section is there or not by the label's badge number and flags; all else of a document
is the label's texts and the moment of printing.
-/

namespace LabelPress

namespace Label

open Zpl

/-- The number in a label's badge: a whole number from 1 to 8. -/
def badge? (label : Label) : Option Int :=
  label.toteNumber.int?.filter fun n => 1 ≤ n && n ≤ 8

/-- A line of the centre column. -/
def centred (y : Int) (text : Text) : Element := .block 125 y text 360 1 "C"

/-- The badge: a disc with the tote number in it, for totes that have one. -/
def badgeSection (label : Label) : List Element :=
  match label.badge? with
  | none => []
  | some n =>
    [.circle 0 0 [Text.ofNat 104, Text.ofNat 104, Text.ofNat 155, "B"], .font "0" 86,
      .field 32 22 (Text.ofInt n) true]

/-- The box of a flag and the letter in it. -/
def flagBox (flag : Flag) : List Element :=
  [.box 505 flag.top 100 100 2, .field 525 (flag.top + 30) flag.code false]

/-- The column of the flags that are set. -/
def flagSection (label : Label) : List Element :=
  .font "0" 60 :: Flag.column.flatMap fun flag =>
    if (label.flag flag).isSet then flagBox flag else []

/-- The centre column: tote, due time, order, customer, order number, bar code, temperature. -/
def centreSection (label : Label) : List Element :=
  [.font "0" 90, centred 52 label.toteId.plain,
    .font "0" 50, centred 142 label.due.clock.dialText,
    .font "0" 45, centred 202 label.order.label, centred 252 label.customer.plain,
    .font "0" 35, centred 302 label.orderNumber.plain,
    .barcodeDefaults 3 3 100, .code128 145 352 label.barcode.plain 100,
    .font "0" 40, centred 462 label.band.label]

/-- The mark of a member's order. -/
def memberSection (label : Label) : List Element :=
  if label.walmartPlus.isSet then [.font "0" 75, .field 0 500 "W+" false] else []

/-- The stamp: day and time of printing, and the bar code's text. -/
def stampSection (label : Label) (now : Moment) : List Element :=
  [.font "0" 30, .field 0 579 now.date.dayMonthText false, centred 579 now.time.dialText,
    .field 520 579 label.barcode.plain false]

/-- The document of a label printed at a moment. -/
def document (label : Label) (now : Moment) : List Element :=
  .start :: (label.badgeSection ++ label.flagSection ++ label.centreSection
    ++ label.memberSection ++ label.stampSection now ++ [.stop])

/-- The text of a label printed at a moment. -/
def compile (label : Label) (now : Moment) : Text := render (label.document now)

end Label

end LabelPress
