import LabelPress.Proofs.Action
import LabelPress.Proofs.Label.Due
import LabelPress.Proofs.Schema.Rules

/-!
# Descriptions and the labels that they describe

`Describes` says of a table and a label, entry by entry, when the one is a description of the other:
an entry that is there says what the label has, and one that is not leaves the standard in its place.
The schema tests the kinds of the entries and the reader takes them for granted, so each entry is
followed through both: what the rule for it lets through, and what is then read, together make the
one clause about it.
-/

namespace LabelPress

namespace Description

/-! ## What an entry says -/

/-- A text, which is kept. -/
def IsText (v : Value) (e : Entry) : Prop := ∃ t, v = .text t ∧ e = .value (.text t)

/-- A truth value, which is kept. -/
def IsFlag (v : Value) (e : Entry) : Prop := ∃ b, v = .bool b ∧ e = .value (.bool b)

/-- No tote number, or a whole number, which may be in floating-point form. -/
inductive IsToteNumber : Value → Entry → Prop where
  | none : IsToteNumber .null (.value .null)
  | int (n : Int) : IsToteNumber (.int n) (.value (.int n))
  | float {x : Binary64} {n : Int} (whole : x.toInt? = some n) :
      IsToteNumber (.float x) (.value (.int n))

section Choices

variable {α : Type}

/-- Whether a text gives the name or the words of a choice, case and blanks around it aside. -/
def Gives (name words : α → Text) (t : Text) (c : α) : Prop :=
  t.strip.casefold = (name c).casefold ∨ t.strip.casefold = (words c).casefold

/-- A text that gives one of some choices. -/
def IsChoice (name words : α → Text) (entry : α → Entry) (v : Value) (e : Entry) : Prop :=
  ∃ t c, v = .text t ∧ Gives name words t c ∧ e = entry c

end Choices

/-- What a table says at a name, if it says anything there; else an entry is the standard one. -/
def Says (d : Table) (Is : Value → Entry → Prop) (standard : Entry) (name : Text) (e : Entry) :
    Prop :=
  match d.get? name with
  | some v => Is v e
  | none => e = standard

/-- The names of the entries that a description may have. -/
def entryNames : List Text :=
  ["tote_number", "tote_id_text", "due_time", "order_type", "customer_name", "full_order_number",
    "tote_barcode_id", "temperature_band", "flags"]

/-- The free texts of a description, each with its place on a label. -/
def texts : List (Text × (Label → Entry)) :=
  [("tote_id_text", Label.toteId), ("customer_name", Label.customer),
    ("full_order_number", Label.orderNumber), ("tote_barcode_id", Label.barcode)]

/-- The flags of a description, each with its place on a label. -/
def flags : List (Text × (Label → Entry)) :=
  [("walmart_plus", Label.walmartPlus), ("alcohol", Label.alcohol),
    ("substitution", Label.substitution), ("fragile", Label.fragile), ("heavy", Label.heavy),
    ("bagged", Label.bagged)]

/-- The label of a due time that is standard in all else. -/
def standard (due : Due) : Label := { due }

/-- Whether a table holds the flags of a description; one without such a table gives none. -/
def HasFlags (d fs : Table) : Prop :=
  d.get? "flags" = some (.table fs) ∨ d.get? "flags" = none ∧ fs = []

/-- Whether a table is a description of a label. -/
structure Describes (d : Table) (label : Label) : Prop where
  names : ∀ name ∈ d.names, name ∈ entryNames
  due : ∃ t, d.get? "due_time" = some (.text t) ∧ Writes t label.due
  toteNumber :
    Says d IsToteNumber (standard label.due).toteNumber "tote_number" label.toteNumber
  texts : ∀ p ∈ texts, Says d IsText (p.2 (standard label.due)) p.1 (p.2 label)
  order : Says d (IsChoice OrderType.name OrderType.label .order) (standard label.due).order
    "order_type" label.order
  band : Says d (IsChoice TemperatureBand.name TemperatureBand.label .band)
    (standard label.due).band "temperature_band" label.band
  flags : ∃ fs, HasFlags d fs ∧ (∀ name ∈ fs.names, ∃ p ∈ flags, p.1 = name) ∧
    ∀ p ∈ flags, Says fs IsFlag (p.2 (standard label.due)) p.1 (p.2 label)

/-! ## Choices -/

section Choices

variable {α : Type} {choices : List α} {name words : α → Text} {t : Text} {c : α}

/-- The two texts that give a choice, as they are compared. -/
def forms (name words : α → Text) (c : α) : List Text := [(name c).casefold, (words c).casefold]

theorem gives_iff_mem_forms : Gives name words t c ↔ t.strip.casefold ∈ forms name words c := by
  simp only [Gives, forms, List.mem_cons, List.not_mem_nil, or_false]

theorem gives_of_choose? (h : choose? choices name words t = some c) : Gives name words t c := by
  have hc := List.find?_some h
  simp only [Bool.or_eq_true, decide_eq_true_eq] at hc
  exact hc

/-- **A choice is read exactly where a text gives it**, if no text can give two of them. -/
theorem choose?_eq_some_iff (hall : ∀ c, c ∈ choices)
    (hone : ∀ c ∈ choices, ∀ d ∈ choices, ∀ f ∈ forms name words c, f ∈ forms name words d → c = d) :
    choose? choices name words t = some c ↔ Gives name words t c := by
  refine ⟨gives_of_choose?, fun hc => ?_⟩
  cases h : choose? choices name words t with
  | some d =>
    have hd : Gives name words t d := gives_of_choose? h
    rw [hone c (hall c) d (hall d) _ (gives_iff_mem_forms.1 hc) (gives_iff_mem_forms.1 hd)]
  | none =>
    have hnot := List.find?_eq_none.1 h c (hall c)
    simp only [Bool.or_eq_true, decide_eq_true_eq] at hnot
    exact absurd hc hnot

end Choices

theorem readOrder_eq_ok_iff {t : Text} {o : OrderType} :
    readOrder t = .ok o ↔ Gives OrderType.name OrderType.label t o := by
  have hall (c : OrderType) : c ∈ OrderType.all := by cases c <;> decide
  rw [← choose?_eq_some_iff hall (by decide), readOrder]
  split <;> simp_all

theorem readBand_eq_ok_iff {t : Text} {b : TemperatureBand} :
    readBand t = .ok b ↔ Gives TemperatureBand.name TemperatureBand.label t b := by
  have hall (c : TemperatureBand) : c ∈ TemperatureBand.all := by cases c <;> decide
  rw [← choose?_eq_some_iff hall (by decide), readBand]
  split <;> simp_all

/-! ## Flags -/

/-- A label with the flags of a table, and its own where the table has none. -/
def withFlags (label : Label) (fs : Table) : Label :=
  let at_ (name : Text) (standard : Entry) : Entry := ((fs.get? name).map .value).getD standard
  { label with
    walmartPlus := at_ "walmart_plus" label.walmartPlus
    alcohol := at_ "alcohol" label.alcohol
    substitution := at_ "substitution" label.substitution
    fragile := at_ "fragile" label.fragile
    heavy := at_ "heavy" label.heavy
    bagged := at_ "bagged" label.bagged }

theorem withFlags_putFlag {label : Label} {name : Text} {v : Value} {fs : Table}
    (h : fs.get? name = none) :
    withFlags (putFlag label (name, v)) fs = withFlags label ((name, v) :: fs) := by
  by_cases hknown : name ∈ flagNames
  · simp only [flagNames, List.mem_cons, List.not_mem_nil, or_false] at hknown
    rcases hknown with rfl | rfl | rfl | rfl | rfl | rfl <;>
      simp +decide [withFlags, putFlag, Table.get?_cons, h]
  · simp only [flagNames, List.mem_cons, List.not_mem_nil, or_false, not_or] at hknown
    simp [withFlags, putFlag, Table.get?_cons, hknown]

/-- **Flags are put each in its own place**, no name coming twice. -/
theorem foldl_putFlag {fs : Table} (h : fs.names.Nodup) (label : Label) :
    fs.foldl putFlag label = withFlags label fs := by
  induction fs generalizing label with
  | nil => rfl
  | cons flag fs ih =>
    obtain ⟨name, v⟩ := flag
    obtain ⟨hname, hfs⟩ := List.nodup_cons.1 h
    rw [List.foldl_cons, ih hfs, withFlags_putFlag (Table.get?_eq_none_iff.2 hname)]

/-! ## What is read -/

section Reading

variable {d : Table} {label : Label}

/-- The text at a name of a table. -/
def textAt (d : Table) (name : Text) : Text := ((d.get? name).bind Value.text?).getD []

/-- The entry at a name of a table, or the standard one. -/
def entryAt (d : Table) (name : Text) (read : Value → Value) (standard : Entry) : Entry :=
  ((d.get? name).map (Entry.value ∘ read)).getD standard

/-- The choice at a name of a table, or the standard one. -/
def choiceAt {α : Type} (d : Table) (name : Text) (read : Text → Except Problem α)
    (entry : α → Entry) (standard : Entry) : Except Problem Entry :=
  if (d.get? name).isSome then entry <$> read (textAt d name) else .ok standard

/-- The flags of a table. -/
def flagsAt (d : Table) : Table := ((d.get? "flags").bind Value.table?).getD []

theorem ofEntries_eq (d : Table) : ofEntries d = do
    let due ← readDue (textAt d "due_time")
    let order ← choiceAt d "order_type" readOrder .order (.order .unscheduled)
    let band ← choiceAt d "temperature_band" readBand .band (.band .ambient)
    let standard : Label := { due }
    return (flagsAt d).foldl putFlag { standard with
      toteNumber := entryAt d "tote_number" readToteNumber standard.toteNumber
      toteId := entryAt d "tote_id_text" id standard.toteId
      order
      customer := entryAt d "customer_name" id standard.customer
      orderNumber := entryAt d "full_order_number" id standard.orderNumber
      barcode := entryAt d "tote_barcode_id" id standard.barcode
      band } := by
  unfold ofEntries choiceAt
  cases d.get? "order_type" <;> cases d.get? "temperature_band" <;> rfl

/-- What is read of a table, entry by entry. -/
structure IsReadAs (d : Table) (label : Label) : Prop where
  due : readDue (textAt d "due_time") = .ok label.due
  order : choiceAt d "order_type" readOrder .order (standard label.due).order = .ok label.order
  band : choiceAt d "temperature_band" readBand .band (standard label.due).band = .ok label.band
  toteNumber : entryAt d "tote_number" readToteNumber (standard label.due).toteNumber =
    label.toteNumber
  texts : ∀ p ∈ texts, entryAt d p.1 id (p.2 (standard label.due)) = p.2 label
  flags : ∀ p ∈ flags, entryAt (flagsAt d) p.1 id (p.2 (standard label.due)) = p.2 label

theorem ofEntries_eq_ok_iff (hflags : (flagsAt d).names.Nodup) :
    ofEntries d = .ok label ↔ IsReadAs d label := by
  simp only [ofEntries_eq, bind_eq_ok_iff, foldl_putFlag hflags]
  constructor
  · rintro ⟨due, hdue, order, horder, band, hband, hlabel⟩
    obtain rfl := Except.ok.inj hlabel
    refine ⟨hdue, horder, hband, rfl, ?_, ?_⟩
    · simp only [texts, List.forall_mem_cons]
      exact ⟨rfl, rfl, rfl, rfl, nofun⟩
    · simp only [flags, List.forall_mem_cons]
      exact ⟨rfl, rfl, rfl, rfl, rfl, rfl, nofun⟩
  · rintro ⟨hdue, horder, hband, htote, htexts, hflagged⟩
    refine ⟨label.due, hdue, label.order, horder, label.band, hband, congrArg Except.ok ?_⟩
    simp only [texts, flags, List.forall_mem_cons] at htexts hflagged
    obtain ⟨hid, hcustomer, hnumber, hbarcode, -⟩ := htexts
    obtain ⟨hwalmart, halcohol, hsubstitution, hfragile, hheavy, hbagged, -⟩ := hflagged
    cases label
    simp only [withFlags, Label.mk.injEq, true_and]
    exact ⟨htote, hid, hcustomer, hnumber, hbarcode, hwalmart, halcohol, hsubstitution, hfragile,
      hheavy, hbagged⟩

end Reading

/-! ## What the schema lets through -/

section Rules

open Schema

variable {d : Table} {label : Label}

/-- What the rules ask of a table, entry by entry. -/
structure Fits (d : Table) : Prop where
  names : ∀ name ∈ d.names, name ∈ entryNames
  due : ∃ t, d.get? "due_time" = some (.text t) ∧ duePattern.found t = true
  toteNumber : ∀ v, d.get? "tote_number" = some v →
    Kind.integer.has v = true ∨ Kind.null.has v = true
  texts : ∀ p ∈ texts, ∀ v, d.get? p.1 = some v → Kind.text.has v = true
  order : ∀ v, d.get? "order_type" = some v → Kind.text.has v = true ∧ v ≠ .text []
  band : ∀ v, d.get? "temperature_band" = some v → Kind.text.has v = true ∧ v ≠ .text []
  flags : ∀ v, d.get? "flags" = some v → ∃ fs : Table, v = .table fs ∧
    (∀ name ∈ fs.names, name ∈ flagNames) ∧
    ∀ p ∈ flags, ∀ w, fs.get? p.1 = some w → Kind.bool.has w = true

theorem ruleViolations_flags_eq_nil {path : List Text} {v : Value} :
    ruleViolations path v [.kinds [.table], .closed flagNames,
      .properties (flagNames.map fun name => (name, [.kinds [.bool]]))] = [] ↔
      ∃ fs : Table, v = .table fs ∧ (∀ name ∈ fs.names, name ∈ flagNames) ∧
        ∀ p ∈ flags, ∀ w, fs.get? p.1 = some w → Kind.bool.has w = true := by
  have hrules : (flagNames.map fun name => (name, [Rule.kinds [.bool]])) =
      flags.map fun p => (p.1, [.kinds [.bool]]) := rfl
  simp only [hrules, ruleViolations_cons_eq_nil, violationsOf_kinds_eq_nil,
    violationsOf_closed_eq_nil, violationsOf_properties_eq_nil, ruleViolations_nil, and_true,
    List.mem_singleton, exists_eq_left, has_table_iff, List.forall_mem_map]
  constructor
  · rintro ⟨⟨fs, rfl⟩, hnames, hflags⟩
    exact ⟨fs, rfl, hnames fs rfl, hflags fs rfl⟩
  · rintro ⟨fs, rfl, hnames, hflags⟩
    exact ⟨⟨fs, rfl⟩, fun gs h => Value.table.inj h ▸ hnames,
      fun gs h => Value.table.inj h ▸ hflags⟩

theorem ruleViolations_rules_eq_nil : ruleViolations [] (.table d) rules = [] ↔ Fits d := by
  have htable : Kind.table.has (.table d) = true := rfl
  have hnames : entryRules.map (·.1) = entryNames := rfl
  simp only [rules, ruleViolations_cons_eq_nil, violationsOf_kinds_eq_nil,
    violationsOf_closed_eq_nil, violationsOf_required_eq_nil, violationsOf_properties_eq_nil,
    Value.table.injEq, forall_eq', ruleViolations_nil, and_true, hnames, List.forall_mem_singleton]
  simp only [entryRules, List.forall_mem_cons, ruleViolations_flags_eq_nil]
  simp only [ruleViolations_cons_eq_nil, violationsOf_kinds_eq_nil,
    violationsOf_pattern_eq_nil, violationsOf_nonEmpty_eq_nil, ruleViolations_nil, and_true,
    List.mem_cons, List.not_mem_nil, or_false, exists_eq_left, exists_eq_or_imp, htable, true_and,
    false_imp_iff, implies_true]
  constructor
  · rintro ⟨hknown, ⟨v, hv⟩, htote, hid, hdue, horder, hcustomer, hnumber, hbarcode, hband, hflag⟩
    obtain ⟨htext, hfound⟩ := hdue v hv
    obtain ⟨t, rfl⟩ := has_text_iff.1 htext
    refine ⟨hknown, ⟨t, hv, hfound t rfl⟩, htote, ?_, horder, hband, hflag⟩
    simp only [texts, List.forall_mem_cons]
    exact ⟨hid, hcustomer, hnumber, hbarcode, List.forall_mem_nil _⟩
  · rintro ⟨hknown, ⟨t, hv, hfound⟩, htote, htexts, horder, hband, hflag⟩
    simp only [texts, List.forall_mem_cons] at htexts
    obtain ⟨hid, hcustomer, hnumber, hbarcode, -⟩ := htexts
    refine ⟨hknown, ⟨_, hv⟩, htote, hid, fun v h => ?_, horder, hcustomer, hnumber, hbarcode, hband,
      hflag⟩
    obtain rfl := Option.some.inj (hv.symm.trans h)
    exact ⟨rfl, fun u hu => Value.text.inj hu ▸ hfound⟩

end Rules

/-! ## Descriptions of labels -/

section Says

open Schema

variable {d : Table} {name : Text} {e standard : Entry}

/-- What a test lets through and a reading makes of it, together. -/
theorem says_iff {Is : Value → Entry → Prop} {P : Value → Prop} {read : Value → Value}
    (h : ∀ v e, P v ∧ .value (read v) = e ↔ Is v e) :
    (∀ v, d.get? name = some v → P v) ∧ entryAt d name read standard = e ↔
      Says d Is standard name e := by
  unfold Says entryAt
  cases d.get? name with
  | none => simp [eq_comm]
  | some v => simpa using h v e

theorem says_choice_iff {α : Type} {read : Text → Except Problem α} {given words : α → Text}
    {entry : α → Entry} (hread : ∀ t c, read t = .ok c ↔ Gives given words t c)
    (hempty : ∀ c, ¬ Gives given words [] c) :
    (∀ v, d.get? name = some v → Kind.text.has v = true ∧ v ≠ .text []) ∧
        choiceAt d name read entry standard = .ok e ↔
      Says d (IsChoice given words entry) standard name e := by
  unfold Says choiceAt textAt
  cases d.get? name with
  | none => exact ⟨fun h => (Except.ok.inj h.2).symm, fun h => ⟨nofun, congrArg Except.ok h.symm⟩⟩
  | some v =>
    constructor
    · rintro ⟨hv, hchoice⟩
      obtain ⟨t, rfl⟩ := has_text_iff.1 (hv v rfl).1
      change entry <$> read t = .ok e at hchoice
      cases hc : read t with
      | error p => rw [hc] at hchoice; cases hchoice
      | ok c =>
        rw [hc] at hchoice
        exact ⟨t, c, rfl, (hread t c).1 hc, (Except.ok.inj hchoice).symm⟩
    · rintro ⟨t, c, rfl, hgives, rfl⟩
      refine ⟨fun w hw => ?_, ?_⟩
      · obtain rfl := Option.some.inj hw
        refine ⟨rfl, fun ht => hempty c ?_⟩
        rwa [← Value.text.inj ht]
      · change entry <$> read t = .ok (entry c)
        rw [(hread t c).2 hgives]
        rfl

theorem says_order_iff :
    (∀ v, d.get? name = some v → Kind.text.has v = true ∧ v ≠ .text []) ∧
        choiceAt d name readOrder .order standard = .ok e ↔
      Says d (IsChoice OrderType.name OrderType.label .order) standard name e := by
  have hempty (c : OrderType) : ¬ Gives OrderType.name OrderType.label [] c := by
    unfold Gives
    cases c <;> decide
  exact says_choice_iff (fun _ _ => readOrder_eq_ok_iff) hempty

theorem says_band_iff :
    (∀ v, d.get? name = some v → Kind.text.has v = true ∧ v ≠ .text []) ∧
        choiceAt d name readBand .band standard = .ok e ↔
      Says d (IsChoice TemperatureBand.name TemperatureBand.label .band) standard name e := by
  have hempty (c : TemperatureBand) : ¬ Gives TemperatureBand.name TemperatureBand.label [] c := by
    unfold Gives
    cases c <;> decide
  exact says_choice_iff (fun _ _ => readBand_eq_ok_iff) hempty

theorem isText_iff {v : Value} : Kind.text.has v = true ∧ .value (id v) = e ↔ IsText v e := by
  rw [has_text_iff, IsText]
  constructor
  · rintro ⟨⟨t, rfl⟩, rfl⟩
    exact ⟨t, rfl, rfl⟩
  · rintro ⟨t, rfl, rfl⟩
    exact ⟨⟨t, rfl⟩, rfl⟩

theorem isFlag_iff {v : Value} : Kind.bool.has v = true ∧ .value (id v) = e ↔ IsFlag v e := by
  rw [has_bool_iff, IsFlag]
  constructor
  · rintro ⟨⟨b, rfl⟩, rfl⟩
    exact ⟨b, rfl, rfl⟩
  · rintro ⟨b, rfl, rfl⟩
    exact ⟨⟨b, rfl⟩, rfl⟩

theorem isToteNumber_iff {v : Value} :
    (Kind.integer.has v = true ∨ Kind.null.has v = true) ∧ .value (readToteNumber v) = e ↔
      IsToteNumber v e := by
  rw [has_integer_iff, has_null_iff]
  constructor
  · rintro ⟨(⟨n, rfl⟩ | ⟨x, n, rfl, hx⟩) | rfl, rfl⟩
    · exact .int n
    · simp only [readToteNumber, hx]
      exact .float hx
    · exact .none
  · rintro (_ | n | hx)
    · exact ⟨.inr rfl, rfl⟩
    · exact ⟨.inl (.inl ⟨n, rfl⟩), rfl⟩
    · refine ⟨.inl (.inr ⟨_, _, rfl, hx⟩), ?_⟩
      simp [readToteNumber, hx]

end Says

section Describes

open Schema

variable {d : Table} {label : Label}

theorem flagsAt_of_hasFlags {fs : Table} (h : HasFlags d fs) : flagsAt d = fs := by
  rcases h with h | ⟨h, rfl⟩
  · rw [flagsAt, h]
    rfl
  · rw [flagsAt, h]
    rfl

theorem says_due_iff {due : Due} :
    (∃ t, d.get? "due_time" = some (.text t) ∧ duePattern.found t = true) ∧
        readDue (textAt d "due_time") = .ok due ↔
      ∃ t, d.get? "due_time" = some (.text t) ∧ Writes t due := by
  have htext {t : Text} (ht : d.get? "due_time" = some (.text t)) : textAt d "due_time" = t := by
    rw [textAt, ht]
    rfl
  constructor
  · rintro ⟨⟨t, ht, hfound⟩, hread⟩
    exact ⟨t, ht, readDue_eq_ok_iff.1 ⟨hfound, htext ht ▸ hread⟩⟩
  · rintro ⟨t, ht, hwrites⟩
    obtain ⟨hfound, hread⟩ := readDue_eq_ok_iff.2 hwrites
    exact ⟨⟨t, ht, hfound⟩, (htext ht).symm ▸ hread⟩

theorem says_flags_iff :
    (∀ v, d.get? "flags" = some v → ∃ fs : Table, v = .table fs ∧
          (∀ name ∈ fs.names, name ∈ flagNames) ∧
          ∀ p ∈ flags, ∀ w, fs.get? p.1 = some w → Kind.bool.has w = true) ∧
        (∀ p ∈ flags, entryAt (flagsAt d) p.1 id (p.2 (standard label.due)) = p.2 label) ↔
      ∃ fs, HasFlags d fs ∧ (∀ name ∈ fs.names, ∃ p ∈ flags, p.1 = name) ∧
        ∀ p ∈ flags, Says fs IsFlag (p.2 (standard label.due)) p.1 (p.2 label) := by
  constructor
  · rintro ⟨hfits, hread⟩
    have hflags : ∃ fs, HasFlags d fs ∧ (∀ name ∈ fs.names, name ∈ flagNames) ∧
        ∀ p ∈ flags, ∀ w, fs.get? p.1 = some w → Kind.bool.has w = true := by
      cases hv : d.get? "flags" with
      | none => exact ⟨[], .inr ⟨hv, rfl⟩, nofun, fun _ _ => nofun⟩
      | some v =>
        obtain ⟨fs, rfl, hnames, hkinds⟩ := hfits v hv
        exact ⟨fs, .inl hv, hnames, hkinds⟩
    obtain ⟨fs, hfs, hnames, hkinds⟩ := hflags
    refine ⟨fs, hfs, fun name hname => List.mem_map.1 (hnames name hname), fun p hp => ?_⟩
    exact (says_iff fun _ _ => isFlag_iff).1 ⟨hkinds p hp, flagsAt_of_hasFlags hfs ▸ hread p hp⟩
  · rintro ⟨fs, hfs, hnames, hgiven⟩
    have hflags p (hp : p ∈ flags) := (says_iff fun _ _ => isFlag_iff).2 (hgiven p hp)
    refine ⟨fun v hv => ?_, fun p hp => flagsAt_of_hasFlags hfs ▸ (hflags p hp).2⟩
    rcases hfs with hfs | ⟨hfs, -⟩
    · obtain rfl := Option.some.inj (hv.symm.trans hfs)
      exact ⟨fs, rfl, fun name hname => List.mem_map.2 (hnames name hname),
        fun p hp => (hflags p hp).1⟩
    · rw [hfs] at hv
      cases hv

/-- **What the rules let through and what is then read make a description**, entry by entry. -/
theorem describes_iff : Fits d ∧ IsReadAs d label ↔ Describes d label := by
  constructor
  · rintro ⟨hfits, hread⟩
    exact {
      names := hfits.names
      due := says_due_iff.1 ⟨hfits.due, hread.due⟩
      toteNumber := (says_iff fun _ _ => isToteNumber_iff).1 ⟨hfits.toteNumber, hread.toteNumber⟩
      texts := fun p hp =>
        (says_iff fun _ _ => isText_iff).1 ⟨hfits.texts p hp, hread.texts p hp⟩
      order := says_order_iff.1 ⟨hfits.order, hread.order⟩
      band := says_band_iff.1 ⟨hfits.band, hread.band⟩
      flags := says_flags_iff.1 ⟨hfits.flags, hread.flags⟩ }
  · intro h
    obtain ⟨hdueFits, hdueRead⟩ := says_due_iff.2 h.due
    obtain ⟨htoteFits, htoteRead⟩ := (says_iff fun _ _ => isToteNumber_iff).2 h.toteNumber
    have htexts p (hp : p ∈ texts) := (says_iff fun _ _ => isText_iff).2 (h.texts p hp)
    obtain ⟨horderFits, horderRead⟩ := says_order_iff.2 h.order
    obtain ⟨hbandFits, hbandRead⟩ := says_band_iff.2 h.band
    obtain ⟨hflagsFit, hflagsRead⟩ := says_flags_iff.2 h.flags
    exact ⟨⟨h.names, hdueFits, htoteFits, fun p hp => (htexts p hp).1, horderFits, hbandFits,
      hflagsFit⟩, ⟨hdueRead, horderRead, hbandRead, htoteRead, fun p hp => (htexts p hp).2,
      hflagsRead⟩⟩

/-- **The fault of a table that is no description** is a refusal, unless a number in it is too long
for the refusal to be put into words. -/
theorem ofValue_eq_error {v : Value} {f : Fault} (h : ofValue v = .error f) :
    f.kind = .labelData ∨ f = .tooLong ∧ v.isShowable = false := by
  unfold ofValue at h
  cases hcheck : check rules v with
  | error g =>
    obtain ⟨rfl, hshow⟩ := eq_tooLong_of_check_eq_error hcheck
    rw [hcheck] at h
    cases h
    exact .inr ⟨rfl, hshow⟩
  | ok violation =>
    rw [hcheck] at h
    cases violation with
    | some violation =>
      cases h
      exact .inl rfl
    | none =>
      change (ofEntries (v.table?.getD [])).mapError Problem.fault = .error f at h
      cases hentries : ofEntries (v.table?.getD []) with
      | error p =>
        rw [hentries] at h
        cases h
        exact .inl rfl
      | ok label => rw [hentries] at h; cases h

theorem ofValue_table_eq_ok_iff :
    ofValue (.table d) = .ok label ↔ Fits d ∧ ofEntries d = .ok label := by
  rw [← ruleViolations_rules_eq_nil, ← check_eq_none_iff, ofValue, bind_eq_ok_iff]
  constructor
  · rintro ⟨_ | violation, hcheck, h⟩
    · refine ⟨hcheck, ?_⟩
      change (ofEntries d).mapError Problem.fault = .ok label at h
      cases hentries : ofEntries d with
      | error p => rw [hentries] at h; cases h
      | ok read => rw [hentries] at h; exact congrArg Except.ok (Except.ok.inj h)
    · cases h
  · rintro ⟨hcheck, hentries⟩
    refine ⟨none, hcheck, ?_⟩
    change (ofEntries d).mapError Problem.fault = .ok label
    rw [hentries]
    rfl

/-- Whatever source a value comes from, it is loaded in one way. -/
theorem load_of_sourceValue {tree : FileTree} {source : Source} {v : Value}
    (h : sourceValue tree source = .ok v) : load tree source = ofValue v := by
  rw [load, h]
  rfl

/-- What is accepted is a table that keeps the rules. -/
theorem exists_table_of_load {tree : FileTree} {source : Source}
    (h : load tree source = .ok label) :
    ∃ d : Table, sourceValue tree source = .ok (.table d) ∧ Fits d ∧ ofEntries d = .ok label := by
  obtain ⟨v, hv, hlabel⟩ := bind_eq_ok_iff.1 h
  have htable : ∃ d : Table, v = .table d := by
    obtain ⟨violation, hcheck, hread⟩ := bind_eq_ok_iff.1 hlabel
    cases violation with
    | some violation => cases hread
    | none =>
      have hrules := check_eq_none_iff.1 hcheck
      rw [rules, ruleViolations_cons_eq_nil, violationsOf_kinds_eq_nil] at hrules
      obtain ⟨k, hk, hhas⟩ := hrules.1
      obtain rfl := List.mem_singleton.1 hk
      exact has_table_iff.1 hhas
  obtain ⟨d, rfl⟩ := htable
  exact ⟨d, hv, ofValue_table_eq_ok_iff.1 hlabel⟩

end Describes

end Description

end LabelPress
