import LabelPress.Label.Layout
import LabelPress.Proofs.Zpl.Lines

/-!
# What a document shows

The `Imprint` of a label is all that its document tells of it and of the moment of printing. The
reader of this file gets it back from the lines of the document: optional sections are told by their
first line, which is the first line of nothing else that could stand there, and texts by the two ends
of theirs. So a text may hold any command it likes, a line feed excepted, and two documents are equal
exactly if their imprints are (`compile_eq_iff`).
-/

namespace LabelPress

namespace Label

open Zpl

/-! ## Imprints -/

/-- What the centre column of a document shows. -/
structure Centre where
  toteId : Text
  due : Text
  order : Text
  customer : Text
  orderNumber : Text
  barcode : Text
  band : Text
  deriving DecidableEq, Repr

/-- What the stamp of a document shows. -/
structure Stamp where
  day : Nat
  month : Nat
  time : Text
  deriving DecidableEq, Repr

/-- What a document shows. -/
structure Imprint where
  badge : Option Int
  flags : Flag → Bool
  centre : Centre
  member : Bool
  stamp : Stamp

/-- What the centre column of a label shows. -/
def centre (label : Label) : Centre where
  toteId := label.toteId.plain
  due := label.due.clock.dialText
  order := label.order.label
  customer := label.customer.plain
  orderNumber := label.orderNumber.plain
  barcode := label.barcode.plain
  band := label.band.label

/-- What a stamp made at a moment shows. -/
def Stamp.ofMoment (now : Moment) : Stamp where
  day := now.date.day
  month := now.date.month
  time := now.time.dialText

/-- What the document of a label printed at a moment shows. -/
def imprint (label : Label) (now : Moment) : Imprint where
  badge := label.badge?
  flags flag := (label.flag flag).isSet
  centre := label.centre
  member := label.walmartPlus.isSet
  stamp := .ofMoment now

/-- Whether none of the texts that a label prints holds a line feed. -/
structure IsOneLined (label : Label) : Prop where
  toteId : .scalar '\n' ∉ label.toteId.plain
  order : .scalar '\n' ∉ label.order.label
  customer : .scalar '\n' ∉ label.customer.plain
  orderNumber : .scalar '\n' ∉ label.orderNumber.plain
  barcode : .scalar '\n' ∉ label.barcode.plain
  band : .scalar '\n' ∉ label.band.label

/-! ## Reading lines -/

/-- A reading of lines from the top: what they say, and the lines below them. -/
abbrev Reading (α : Type) := StateT (List Text) Option α

namespace Reading

variable {α β : Type}

/-- Whether the lines of some elements come first; if so they are passed over. -/
def finds (elements : List Element) : Reading Bool := fun ls =>
  if (Zpl.lines elements).isPrefixOf ls then some (true, ls.drop (Zpl.lines elements).length)
  else some (false, ls)

/-- Passes over the lines of some elements, which have to come first. -/
def pass (elements : List Element) : Reading Unit := do
  guard (← finds elements)

/-- What stands between the two ends of the next line. -/
def between (start stop : Text) : Reading Text := fun
  | [] => none
  | l :: ls => (l.between? start stop).map (·, ls)

/-- The text of a line of the centre column. -/
def centred (y : Int) : Reading Text :=
  between (Element.origin 125 y ++ "^FB" ++ Element.numbers [360, 1, 0] ++ "," ++ "C" ++ ",0^FD")
    "^FS"

/-- The text of a field. -/
def field (x y : Int) (reverse : Bool) : Reading Text :=
  between (Element.origin x y ++ Text.when reverse "^FR" ++ "^FD") "^FS"

/-- The value of a bar code. -/
def code128 (x y height : Int) : Reading Text := do
  pass [.raw (Element.origin x y ++ "^BCN," ++ Text.ofInt height ++ ",N,N,N")]
  between "^FD" "^FS"

theorem bind_eq {x : Reading α} {f : α → Reading β} {ls rest : List Text} {a : α}
    (h : x ls = some (a, rest)) : (x >>= f) ls = f a rest := by
  change (x ls).bind (fun p => f p.1 p.2) = f a rest
  rw [h]
  rfl

theorem finds_append (elements : List Element) (rest : List Text) :
    finds elements (Zpl.lines elements ++ rest) = some (true, rest) := by
  simp [finds]

/-- The lines of some elements are not found where another line comes first. -/
theorem finds_of_head?_ne {elements : List Element} {ls : List Text} {l : Text}
    (hl : (Zpl.lines elements).head? = some l) (h : ls.head? ≠ some l) :
    finds elements ls = some (false, ls) := by
  cases hlines : Zpl.lines elements with
  | nil => simp [hlines] at hl
  | cons m ms =>
    obtain rfl : m = l := by simpa [hlines] using hl
    cases ls with
    | nil => simp [finds, hlines]
    | cons k ks =>
      have hk : m ≠ k := fun hk => h (by simp [hk])
      simp [finds, hlines, hk]

theorem pass_append (elements : List Element) (rest : List Text) :
    pass elements (Zpl.lines elements ++ rest) = some ((), rest) := by
  rw [pass, bind_eq (finds_append elements rest)]
  rfl

theorem between_append (start t stop : Text) (rest : List Text) :
    between start stop ((start ++ t ++ stop) :: rest) = some (t, rest) := by
  rw [between, Text.between?_append]
  rfl

theorem centred_append (y : Int) (t : Text) (rest : List Text) :
    centred y (Zpl.lines [Label.centred y t] ++ rest) = some (t, rest) :=
  between_append _ t _ rest

theorem field_append (x y : Int) (reverse : Bool) (t : Text) (rest : List Text) :
    field x y reverse (Zpl.lines [.field x y t reverse] ++ rest) = some (t, rest) :=
  between_append _ t _ rest

theorem code128_append (x y height : Int) (t : Text) (rest : List Text) :
    code128 x y height (Zpl.lines [.code128 x y t height] ++ rest) = some (t, rest) := by
  exact (bind_eq (pass_append [.raw _] (("^FD" ++ t ++ "^FS") :: rest))).trans
    (between_append "^FD" t "^FS" rest)

/-! ## Reading the sections -/

/-- The number in the badge, if there is one. -/
def badge : Reading (Option Int) := do
  if ← finds [.circle 0 0 [Text.ofNat 104, Text.ofNat 104, Text.ofNat 155, "B"], .font "0" 86] then
    let number ← field 32 22 true
    return number.toNat?.map Int.ofNat
  else return none

/-- Which of some flags have a box, each in its turn. -/
def boxes : List Flag → Reading (List Flag)
  | [] => return []
  | flag :: flags => do
    let isThere ← finds (flagBox flag)
    let others ← boxes flags
    return if isThere then flag :: others else others

/-- The centre column. -/
def centre : Reading Centre := do
  pass [.font "0" 90]
  let toteId ← centred 52
  pass [.font "0" 50]
  let due ← centred 142
  pass [.font "0" 45]
  let order ← centred 202
  let customer ← centred 252
  pass [.font "0" 35]
  let orderNumber ← centred 302
  pass [.barcodeDefaults 3 3 100]
  let barcode ← code128 145 352 100
  pass [.font "0" 40]
  let band ← centred 462
  return { toteId, due, order, customer, orderNumber, barcode, band }

/-- Whether the mark of a member's order is there. -/
def member : Reading Bool := finds [.font "0" 75, .field 0 500 "W+" false]

/-- A day of the month and a month. -/
def dayMonth? (t : Text) : Option (Nat × Nat) := do
  let (day, rest) ← Iso.twoDigits? t
  let name ← Text.dropPrefix? "-" rest
  return (day, monthNames.idxOf name + 1)

/-- The stamp. -/
def stamp : Reading Stamp := do
  pass [.font "0" 30]
  let date ← field 0 579 false
  let (day, month) ← StateT.lift (dayMonth? date)
  let time ← centred 579
  let _ ← field 520 579 false
  return { day, month, time }

/-- A whole document. -/
def imprint : Reading Imprint := do
  pass [.start]
  let badge ← badge
  pass [.font "0" 60]
  let found ← boxes Flag.column
  let centre ← centre
  let member ← member
  let stamp ← stamp
  pass [.stop]
  return { badge, flags := fun flag => found.contains flag, centre, member, stamp }

/-! ## The sections read back -/

theorem badge?_range {label : Label} {n : Int} (h : label.badge? = some n) : 1 ≤ n ∧ n ≤ 8 := by
  simp only [badge?, Option.filter_eq_some_iff, Bool.and_eq_true, decide_eq_true_eq] at h
  exact h.2

/-- A badge is read back, or found missing if what comes next is not its disc. -/
theorem badge_append (label : Label) {rest : List Text}
    (h : rest.head? ≠ some (Text.ofString "^FO0,0^GC104,104,155,B^FS")) :
    badge (Zpl.lines label.badgeSection ++ rest) = some (label.badge?, rest) := by
  unfold badgeSection
  cases hbadge : label.badge? with
  | none => exact bind_eq (finds_of_head?_ne rfl h)
  | some n =>
    obtain ⟨hlow, hhigh⟩ := badge?_range hbadge
    have hn : (Text.ofInt n).toNat?.map Int.ofNat = some n := by
      obtain rfl | rfl | rfl | rfl | rfl | rfl | rfl | rfl :
          n = 1 ∨ n = 2 ∨ n = 3 ∨ n = 4 ∨ n = 5 ∨ n = 6 ∨ n = 7 ∨ n = 8 := by omega
      all_goals rfl
    refine (bind_eq (finds_append _ _)).trans ?_
    rw [if_pos rfl, ← hn]
    exact bind_eq (field_append 32 22 true (Text.ofInt n) rest)

/-- The first line of a flag's box. -/
def boxLine (flag : Flag) : Text :=
  Element.graphicLine 505 flag.top ("^GB" ++ Element.numbers [100, 100, 2])

theorem boxLine_ne {flag other : Flag} (h : flag ≠ other) : boxLine flag ≠ boxLine other := by
  cases flag <;> cases other <;> first | exact absurd rfl h | decide

/-- What comes after some boxes and before the rest does not start with another box. -/
theorem head?_boxes_append {set : Flag → Bool} {flag : Flag} {flags : List Flag}
    (h : flag ∉ flags) {rest : List Text} (hrest : rest.head? ≠ some (boxLine flag)) :
    (Zpl.lines (flags.flatMap fun f => if set f then flagBox f else []) ++ rest).head? ≠
      some (boxLine flag) := by
  induction flags with
  | nil => exact hrest
  | cons f fs ih =>
    have hf : f ≠ flag := fun hf => h (hf ▸ .head _)
    cases hset : set f with
    | false => simpa [hset] using ih fun hfs => h (.tail _ hfs)
    | true =>
      rw [List.flatMap_cons, hset, if_pos rfl, lines_append, List.append_assoc]
      change some (boxLine f) ≠ _
      exact fun heq => boxLine_ne hf (Option.some.inj heq)

/-- The flags that have boxes are read back. -/
theorem boxes_append {set : Flag → Bool} {flags : List Flag} (hnodup : flags.Nodup)
    {rest : List Text} (hrest : ∀ flag, rest.head? ≠ some (boxLine flag)) :
    boxes flags (Zpl.lines (flags.flatMap fun f => if set f then flagBox f else []) ++ rest) =
      some (flags.filter set, rest) := by
  induction flags with
  | nil => rfl
  | cons f fs ih =>
    obtain ⟨hf, hfs⟩ := List.nodup_cons.1 hnodup
    rw [List.flatMap_cons, lines_append, List.append_assoc]
    cases hset : set f with
    | true =>
      rw [if_pos rfl, List.filter_cons_of_pos hset]
      exact (bind_eq (finds_append _ _)).trans (bind_eq (ih hfs))
    | false =>
      -- Without a box the next line is that of a later flag, or of the centre column.
      have hhead : (Zpl.lines (fs.flatMap fun g => if set g then flagBox g else []) ++ rest).head? ≠
          some (boxLine f) := head?_boxes_append hf (hrest f)
      rw [if_neg (by decide), List.filter_cons_of_neg (by simp [hset])]
      exact (bind_eq (finds_of_head?_ne rfl hhead)).trans (bind_eq (ih hfs))

theorem lines_cons_append (e f : Element) (es : List Element) (ls : List Text) :
    Zpl.lines (e :: f :: es) ++ ls = Zpl.lines [e] ++ (Zpl.lines (f :: es) ++ ls) := by
  rw [← List.append_assoc, ← lines_append, List.singleton_append]

theorem centre_append (label : Label) (rest : List Text) :
    centre (Zpl.lines label.centreSection ++ rest) = some (label.centre, rest) := by
  simp only [centreSection, lines_cons_append]
  rw [centre, bind_eq (pass_append _ _), bind_eq (centred_append 52 _ _),
    bind_eq (pass_append _ _), bind_eq (centred_append 142 _ _),
    bind_eq (pass_append _ _), bind_eq (centred_append 202 _ _), bind_eq (centred_append 252 _ _),
    bind_eq (pass_append _ _), bind_eq (centred_append 302 _ _),
    bind_eq (pass_append _ _), bind_eq (code128_append 145 352 100 _ _),
    bind_eq (pass_append _ _), bind_eq (centred_append 462 _ _)]
  rfl

/-- The mark of a member's order is read back, or found missing if what comes next is not its font. -/
theorem member_append (label : Label) {rest : List Text}
    (h : rest.head? ≠ some (Text.ofString "^CF0,75")) :
    member (Zpl.lines label.memberSection ++ rest) = some (label.walmartPlus.isSet, rest) := by
  unfold memberSection
  cases label.walmartPlus.isSet with
  | true => exact finds_append _ rest
  | false => exact finds_of_head?_ne rfl h

/-- **The day and the month of a stamp are read back**, whichever they are. -/
theorem dayMonth?_dayMonthText (d : Date) : dayMonth? d.dayMonthText = some (d.day, d.month) := by
  have hday : d.day < 100 := by
    have hlast : daysInMonth d.year d.month ≤ 31 := by
      unfold daysInMonth
      split
      · split <;> omega
      · split <;> omega
    have := d.day_range.2
    omega
  have hmonth : monthNames.idxOf (monthNames.getD (d.month - 1) []) + 1 = d.month := by
    have hrange := d.month_range
    generalize d.month = month at hrange
    obtain ⟨m, rfl⟩ : ∃ m, month = m + 1 := ⟨month - 1, by omega⟩
    have hall : ∀ m < 12, monthNames.idxOf (monthNames.getD m []) = m := by decide
    exact congrArg (· + 1) (hall m (by omega))
  rw [Date.dayMonthText, List.append_assoc, dayMonth?, Iso.twoDigits?_padded hday]
  simp only [Option.bind_eq_bind, Option.bind_some, Text.dropPrefix?_append]
  exact congrArg (fun month => some (d.day, month)) hmonth

theorem stamp_append (label : Label) (now : Moment) (rest : List Text) :
    stamp (Zpl.lines (label.stampSection now) ++ rest) = some (Stamp.ofMoment now, rest) := by
  have hdate : (StateT.lift (dayMonth? now.date.dayMonthText) : Reading (Nat × Nat)) =
      pure (now.date.day, now.date.month) := by
    rw [dayMonth?_dayMonthText]
    rfl
  simp only [stampSection, lines_cons_append]
  rw [stamp, bind_eq (pass_append _ _), bind_eq (field_append 0 579 false _ _), hdate, pure_bind]
  dsimp only
  rw [bind_eq (centred_append 579 _ _)]
  exact bind_eq (field_append 520 579 false _ rest)

/-- **A document is read back as the imprint of its label.** -/
theorem imprint_lines (label : Label) (now : Moment) :
    imprint (Zpl.lines (label.document now)) = some (label.imprint now, []) := by
  have hflags : (fun flag => (Flag.column.filter fun f => (label.flag f).isSet).contains flag) =
      fun flag => (label.flag flag).isSet := by
    funext flag
    simp only [List.contains_eq_mem, List.mem_filter]
    cases flag <;> simp [Flag.column]
  have hstart (document : List Element) :
      Zpl.lines (.start :: document) = Zpl.lines [.start] ++ Zpl.lines document := by
    rw [← lines_append, List.singleton_append]
  have hcolumn (rest : List Text) : Zpl.lines label.flagSection ++ rest =
      Zpl.lines [.font "0" 60] ++ (Zpl.lines (Flag.column.flatMap fun f =>
        if (label.flag f).isSet then flagBox f else []) ++ rest) := by
    rw [flagSection, ← List.append_assoc, ← lines_append, List.singleton_append]
  rw [document, hstart]
  simp only [lines_append, List.append_assoc, hcolumn]
  -- What comes after an optional section starts with a font of its own.
  have hbadge (ls : List Text) : (Zpl.lines [.font "0" 60] ++ ls).head? ≠
      some (Text.ofString "^FO0,0^GC104,104,155,B^FS") := by
    change some (Text.ofString "^CF0,60") ≠ _
    decide
  have hboxes (ls : List Text) (flag : Flag) :
      (Zpl.lines label.centreSection ++ ls).head? ≠ some (boxLine flag) := by
    change some (Text.ofString "^CF0,90") ≠ _
    cases flag <;> decide
  have hmember (ls : List Text) : (Zpl.lines (label.stampSection now) ++ ls).head? ≠
      some (Text.ofString "^CF0,75") := by
    change some (Text.ofString "^CF0,30") ≠ _
    decide
  rw [imprint, bind_eq (pass_append _ _), bind_eq (badge_append label (hbadge _)),
    bind_eq (pass_append _ _), bind_eq (boxes_append (by decide) (hboxes _)),
    bind_eq (centre_append label _), bind_eq (member_append label (hmember _)),
    bind_eq (stamp_append label now _), hflags]
  exact bind_eq (pass_append [.stop] [])

end Reading

/-! ## Documents and imprints -/

/-- The imprint that the lines of a document show, if they are the lines of one. -/
def Imprint.ofLines? (ls : List Text) : Option Imprint :=
  match Reading.imprint ls with
  | some (imprint, []) => some imprint
  | _ => none

theorem Imprint.ofLines?_lines (label : Label) (now : Moment) :
    Imprint.ofLines? (Zpl.lines (label.document now)) = some (label.imprint now) := by
  rw [ofLines?, Reading.imprint_lines]

variable {a b : Label} {m n : Moment}

/-- The layout looks at nothing but the imprint. -/
theorem document_eq_of_imprint_eq (h : a.imprint m = b.imprint n) :
    a.document m = b.document n := by
  simp only [imprint, Imprint.mk.injEq] at h
  obtain ⟨hbadge, hflags, hcentre, hmember, hstamp⟩ := h
  have hflags (flag : Flag) : (a.flag flag).isSet = (b.flag flag).isSet := congrFun hflags flag
  simp only [centre, Centre.mk.injEq] at hcentre
  obtain ⟨htoteId, hdue, horder, hcustomer, horderNumber, hbarcode, hband⟩ := hcentre
  simp only [Stamp.ofMoment, Stamp.mk.injEq] at hstamp
  obtain ⟨hday, hmonth, htime⟩ := hstamp
  simp only [document, badgeSection, flagSection, centreSection, memberSection, stampSection,
    Date.dayMonthText, hbadge, hflags, htoteId, hdue, horder, hcustomer, horderNumber, hbarcode,
    hband, hmember, hday, hmonth, htime]

section Reserved

variable {c : CodePoint}

theorem not_mem_dialText (hc : c.IsReserved) (t : ClockTime) : c ∉ t.dialText := by
  have hhour : c ∉ Text.ofNat t.dialHour := Text.not_mem_ofNat hc.isAsciiDigit_eq_false _
  have hminute : c ∉ Text.padded 2 t.minute := Text.not_mem_padded hc.isAsciiDigit_eq_false 2 _
  have hcolon : c ∉ Text.ofString ":" := hc.not_mem (by decide)
  have hhalf : c ∉ Text.ofString (if t.hour < 12 then " AM" else " PM") := by
    refine hc.not_mem ?_
    split <;> decide
  simp only [ClockTime.dialText, List.mem_append, not_or]
  exact ⟨⟨⟨hhour, hcolon⟩, hminute⟩, hhalf⟩

theorem not_mem_dayMonthText (hc : c.IsReserved) (d : Date) : c ∉ d.dayMonthText := by
  have hday : c ∉ Text.padded 2 d.day := Text.not_mem_padded hc.isAsciiDigit_eq_false 2 _
  have hhyphen : c ∉ Text.ofString "-" := hc.not_mem (by decide)
  have hname (k : Nat) : c ∉ monthNames.getD k [] := by
    rcases Nat.lt_or_ge k 12 with hk | hk
    · have hplain : ∀ k < 12, ∀ d ∈ monthNames.getD k [], ¬ d.IsReserved := by decide
      exact hc.not_mem (hplain k hk)
    · rw [List.getD_eq_getElem?_getD, List.getElem?_eq_none hk]
      exact List.not_mem_nil
  simp only [Date.dayMonthText, List.mem_append, not_or]
  exact ⟨⟨hday, hhyphen⟩, hname _⟩

/-- The texts of a label that its document prints, whatever they are. -/
def printed (label : Label) : List Text :=
  [label.toteId.plain, label.order.label, label.customer.plain, label.orderNumber.plain,
    label.barcode.plain, label.band.label]

theorem IsOneLined.not_mem_printed (h : a.IsOneLined) : ∀ t ∈ a.printed, .scalar '\n' ∉ t := by
  simp only [printed, List.forall_mem_cons]
  exact ⟨h.toteId, h.order, h.customer, h.orderNumber, h.barcode, h.band, List.forall_mem_nil _⟩

/-- No text in the document of a label holds a reserved code point, unless one that it prints does. -/
theorem not_mem_texts (hc : c.IsReserved) (h : ∀ t ∈ a.printed, c ∉ t) (now : Moment) :
    ∀ e ∈ a.document now, ∀ t ∈ e.texts, c ∉ t := by
  simp only [printed, List.forall_mem_cons] at h
  obtain ⟨htoteId, horder, hcustomer, horderNumber, hbarcode, hband, -⟩ := h
  have hnone : ∀ t ∈ ([] : List Text), c ∉ t := List.forall_mem_nil _
  have hfixed {ts : List Text} (hts : ∀ t ∈ ts, ∀ d ∈ t, ¬ d.IsReserved) : ∀ t ∈ ts, c ∉ t :=
    fun t ht => hc.not_mem (hts t ht)
  have hfont (height : Int) : ∀ t ∈ (Element.font "0" height).texts, c ∉ t := by
    refine hfixed ?_
    change ∀ t ∈ [Text.ofString "0"], _
    decide
  have hcentred (y : Int) {text : Text} (ht : c ∉ text) : ∀ t ∈ (centred y text).texts, c ∉ t :=
    List.forall_mem_cons.2 ⟨ht, hfixed (by decide)⟩
  have hfield (x y : Int) (reverse : Bool) {text : Text} (ht : c ∉ text) :
      ∀ t ∈ (Element.field x y text reverse).texts, c ∉ t :=
    List.forall_mem_cons.2 ⟨ht, hnone⟩
  have hbadge : ∀ e ∈ a.badgeSection, ∀ t ∈ e.texts, c ∉ t := by
    unfold badgeSection
    cases a.badge? with
    | none => exact List.forall_mem_nil _
    | some n =>
      simp only [List.forall_mem_cons]
      exact ⟨hfixed (by decide), hfont 86, hfield 32 22 true (hc.not_mem_ofInt n),
        List.forall_mem_nil _⟩
  have hcolumn : ∀ e ∈ a.flagSection, ∀ t ∈ e.texts, c ∉ t := by
    refine List.forall_mem_cons.2 ⟨hfont 60, fun e he => ?_⟩
    obtain ⟨flag, -, hbox⟩ := List.mem_flatMap.1 he
    have hplain : ∀ e ∈ flagBox flag, ∀ t ∈ e.texts, ∀ d ∈ t, ¬ d.IsReserved := by
      cases flag <;> decide
    split at hbox
    · exact hfixed (hplain e hbox)
    · cases hbox
  have hcentre : ∀ e ∈ a.centreSection, ∀ t ∈ e.texts, c ∉ t := by
    simp only [centreSection, List.forall_mem_cons]
    exact ⟨hfont 90, hcentred 52 htoteId, hfont 50, hcentred 142 (not_mem_dialText hc _),
      hfont 45, hcentred 202 horder, hcentred 252 hcustomer, hfont 35,
      hcentred 302 horderNumber, hnone, List.forall_mem_cons.2 ⟨hbarcode, hnone⟩,
      hfont 40, hcentred 462 hband, List.forall_mem_nil _⟩
  have hmember : ∀ e ∈ a.memberSection, ∀ t ∈ e.texts, c ∉ t := by
    unfold memberSection
    split
    · have hplain : ∀ e ∈ [Element.font "0" 75, .field 0 500 "W+" false], ∀ t ∈ e.texts,
          ∀ d ∈ t, ¬ d.IsReserved := by decide
      exact fun e he => hfixed (hplain e he)
    · exact List.forall_mem_nil _
  have hstamp : ∀ e ∈ a.stampSection now, ∀ t ∈ e.texts, c ∉ t := by
    simp only [stampSection, List.forall_mem_cons]
    exact ⟨hfont 30, hfield 0 579 false (not_mem_dayMonthText hc _),
      hcentred 579 (not_mem_dialText hc _), hfield 520 579 false hbarcode, List.forall_mem_nil _⟩
  simp only [document, List.forall_mem_cons, List.forall_mem_append]
  exact ⟨hnone, ⟨⟨⟨⟨hbadge, hcolumn⟩, hcentre⟩, hmember⟩, hstamp⟩, hnone, List.forall_mem_nil _⟩

/-- And each text that it prints is in the centre column of its document. -/
theorem mem_texts_of_mem_printed {t : Text} (h : t ∈ a.printed) (now : Moment) :
    ∃ e ∈ a.document now, t ∈ e.texts := by
  have hcentre : ∃ e ∈ a.centreSection, t ∈ e.texts := by
    simp only [printed, List.mem_cons, List.not_mem_nil, or_false] at h
    rcases h with rfl | rfl | rfl | rfl | rfl | rfl <;>
      simp [centreSection, centred, Element.texts]
  obtain ⟨e, he, ht⟩ := hcentre
  exact ⟨e, by simp [document, he], ht⟩

/-- **What is in a document and in no fixed word** is in a text that its label prints. -/
theorem mem_compile_iff (hc : c.IsForeign) (hfeed : c ≠ .scalar '\n') (now : Moment) :
    c ∈ a.compile now ↔ ∃ t ∈ a.printed, c ∈ t := by
  rw [compile, mem_render_iff hc hfeed]
  constructor
  · rintro ⟨e, he, t, ht, hct⟩
    refine Classical.byContradiction fun hnone => ?_
    simp only [not_exists, not_and] at hnone
    exact not_mem_texts (.inl hc) hnone now e he t ht hct
  · rintro ⟨t, ht, hct⟩
    obtain ⟨e, he, hte⟩ := mem_texts_of_mem_printed ht now
    exact ⟨e, he, t, hte, hct⟩

end Reserved

/-- So the lines of the text of a document are those of its elements. -/
theorem lines_compile (h : a.IsOneLined) (now : Moment) :
    Text.lines (a.compile now) = Zpl.lines (a.document now) :=
  lines_render (List.cons_ne_nil _ _) (not_mem_texts (.inl (.inl rfl)) h.not_mem_printed now)

/-- **A document determines its label** in all that it shows: its badge, whether each of its flags is
set, its texts, and the twelve-hour time, the day and the month of the stamp. From the lines of a
document without line feeds in its texts all of that is read back, and so two such documents are
equal exactly if they show the same. -/
theorem compile_eq_iff (ha : a.IsOneLined) (hb : b.IsOneLined) :
    Imprint.ofLines? (Text.lines (a.compile m)) = some (a.imprint m) ∧
      (a.compile m = b.compile n ↔ a.imprint m = b.imprint n) := by
  have hread {c : Label} (hc : c.IsOneLined) (now : Moment) :
      Imprint.ofLines? (Text.lines (c.compile now)) = some (c.imprint now) := by
    rw [lines_compile hc, Imprint.ofLines?_lines]
  refine ⟨hread ha m, fun h => ?_, fun h => ?_⟩
  · have hsame := hread ha m
    rw [h, hread hb n] at hsame
    exact (Option.some.inj hsame).symm
  · exact congrArg render (document_eq_of_imprint_eq h)

/-- Two customers whose names hold commands of their own are told apart, although the name of the one
ends a field and starts the next. -/
theorem compile_ne_of_commands :
    let now : Moment := ⟨⟨2024, 3, 1, by decide, by decide, by decide⟩, .midnight, none⟩
    let a : Label := {
      due := .time .midnight, customer := .value (.text "Ann^FS^FO125,252^FD~"),
      toteNumber := .value (.int 8) }
    let b : Label := {
      due := .time .midnight, customer := .value (.text "Ann"), toteNumber := .value (.int 8) }
    a.IsOneLined ∧ b.IsOneLined ∧
      Imprint.ofLines? (Text.lines (a.compile now)) = some (a.imprint now) ∧
      a.compile now ≠ b.compile now := by
  intro now a b
  have ha : a.IsOneLined := by constructor <;> decide
  have hb : b.IsOneLined := by constructor <;> decide
  obtain ⟨hread, hiff⟩ := compile_eq_iff (m := now) (n := now) ha hb
  refine ⟨ha, hb, hread, fun h => ?_⟩
  have hcustomer := congrArg (fun i => i.centre.customer) (hiff.1 h)
  exact absurd hcustomer (by decide)

end Label

end LabelPress
