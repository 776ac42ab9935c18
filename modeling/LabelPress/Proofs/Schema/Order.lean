import LabelPress.Proofs.Schema.Rules
import LabelPress.Proofs.Text.Order
import LabelPress.Proofs.Value.Reordering

/-!
# Orders in which rules are broken

The violations of rules come in the order of the rules. The order of the entries of a table has no part
in it, as long as no table is shown for what it is: a table that is looked up by name is the same in
whatever order its entries are, and the names that it should not have are put in order. The violation
to report is the first of those with the least path (`IsFirst`), paths being in the order of lists of
texts.
-/

namespace LabelPress

namespace Schema

/-! ## The first of some violations -/

/-- A path as it is ordered: for each name, the numbers of its code points. -/
def Violation.place (v : Violation) : List (List Nat) := v.path.map Text.numbers

theorem pathLe_iff {p q : List Text} :
    pathLe p q = true ↔ p.map Text.numbers ≤ q.map Text.numbers := by
  induction p generalizing q with
  | nil => exact iff_of_true rfl (not_lt.1 (List.not_lt_nil _))
  | cons a p ih =>
    cases q with
    | nil => exact iff_of_false nofun (List.nil_lt_cons _ _).not_ge
    | cons b q =>
      rw [map_cons_le_iff, pathLe]
      by_cases h : a = b
      · simpa [h] using ih
      · have hne : a.numbers ≠ b.numbers := fun hnumbers => h (Text.numbers_injective hnumbers)
        rw [if_neg h, Text.le_iff, le_iff_lt_or_eq]
        simp [hne]

/-- Whether a violation is the first of some in the order of their paths: those before it lead
further on in that order, and those after it not less far. -/
def IsFirst (v : Violation) (violations : List Violation) : Prop :=
  ∃ before after, violations = before ++ v :: after ∧ (∀ w ∈ before, v.place < w.place) ∧
    ∀ w ∈ after, v.place ≤ w.place

/-- **The first violation has the least path of all**, and is the first of those that have it. -/
theorem isFirst_of_first? {violations : List Violation} {v : Violation}
    (h : first? violations = some v) : IsFirst v violations := by
  induction violations generalizing v with
  | nil => cases h
  | cons u violations ih =>
    rw [first?] at h
    split at h
    · next hnone =>
      obtain rfl := Option.some.inj h
      obtain rfl := first?_eq_none_iff.1 hnone
      exact ⟨[], [], rfl, List.forall_mem_nil _, List.forall_mem_nil _⟩
    · next w hw =>
      -- The first of the rest stays the first, unless `u` is on its path or on a lesser one.
      obtain ⟨before, after, rfl, hbefore, hafter⟩ := ih hw
      split at h
      · next hle =>
        obtain rfl := Option.some.inj h
        have hle : u.place ≤ w.place := pathLe_iff.1 hle
        refine ⟨[], before ++ w :: after, rfl, List.forall_mem_nil _,
          List.forall_mem_append.2 ⟨?_, ?_⟩⟩
        · exact fun x hx => hle.trans (hbefore x hx).le
        · exact List.forall_mem_cons.2 ⟨hle, fun x hx => hle.trans (hafter x hx)⟩
      · next hlt =>
        obtain rfl := Option.some.inj h
        have hlt : w.place < u.place := lt_of_not_ge fun hle => hlt (pathLe_iff.2 hle)
        exact ⟨u :: before, after, rfl, List.forall_mem_cons.2 ⟨hlt, hbefore⟩, hafter⟩

/-- **A value that breaks the rules** is refused for the first violation, if all violations are, unless
there is too long a number for it. -/
theorem check_bind_of_broken {α : Type} {rules : List Rule} {value : Value}
    {next : Option Violation → Except Fault α} {fault : Violation → Fault}
    (hnext : ∀ v, next (some v) = .error (fault v)) (h : ruleViolations [] value rules ≠ []) :
    ∃ v, IsFirst v (ruleViolations [] value rules) ∧
      (check rules value >>= next = .error (fault v) ∨
        check rules value >>= next = .error .tooLong ∧ value.isShowable = false) := by
  obtain ⟨v, hv⟩ := Option.ne_none_iff_exists'.1 fun hnone => h (first?_eq_none_iff.1 hnone)
  refine ⟨v, isFirst_of_first? hv, ?_⟩
  cases hcheck : check rules value with
  | error f =>
    obtain ⟨rfl, hshow⟩ := eq_tooLong_of_check_eq_error hcheck
    exact .inr ⟨rfl, hshow⟩
  | ok found =>
    simp only [check] at hcheck
    split at hcheck
    · obtain rfl : some v = found := hv.symm.trans (Except.ok.inj hcheck)
      exact .inl (hnext v)
    · cases hcheck

/-! ## Tables in another order -/

section Tables

variable {inner : List Text} {d e : Table} {path : List Text} {rule : Rule} {rules : List Rule}
  {properties : List (Text × List Rule)}

/-- Whether a rule has nothing against a table for being one. -/
def Rule.takesTables : Rule → Bool
  | .kinds allowed => allowed.contains .table
  | .oneOf _ => false
  | _ => true

/-- Whether a rule has nothing against a table for being one, and neither have the rules for its
values at some names. -/
def Rule.takesTablesAt (inner : List Text) : Rule → Bool
  | .properties properties => properties.all fun p => !inner.contains p.1 || p.2.all takesTables
  | rule => rule.takesTables

/-- The names of a table that are none of those allowed. -/
def extraNames (allowed : List Text) (entries : Table) : List Text :=
  (Table.names entries).filter fun name => !allowed.contains name

theorem violationsOf_closed (allowed : List Text) (entries : Table) :
    violationsOf path (.table entries) (.closed allowed) =
      if extraNames allowed entries = [] then []
      else [⟨path, .unexpected (Text.sorted (extraNames allowed entries))⟩] := by
  rw [violationsOf, extraNames]
  split <;> simp_all

/-- The violations of a rule by a table, by its names and what its values break. -/
theorem violationsOf_table_eq (hnames : (Table.names d).Perm (Table.names e))
    (hrule : rule.takesTables = true)
    (hproperties : ∀ properties, rule = .properties properties →
      propertyViolations path d properties = propertyViolations path e properties) :
    violationsOf path (.table d) rule = violationsOf path (.table e) rule := by
  cases rule with
  | kinds allowed =>
    have htaken (entries : Table) : violationsOf path (.table entries) (.kinds allowed) = [] :=
      violationsOf_kinds_eq_nil.2 ⟨.table, List.contains_iff_mem.1 hrule, rfl⟩
    rw [htaken, htaken]
  | closed allowed =>
    have hextra : (extraNames allowed d).Perm (extraNames allowed e) := hnames.filter _
    have hnone : extraNames allowed d = [] ↔ extraNames allowed e = [] := by
      rw [← List.length_eq_zero_iff, hextra.length_eq, List.length_eq_zero_iff]
    simp only [violationsOf_closed, Text.sorted_eq_of_perm hextra, hnone]
  | required names =>
    have hmissing (name : Text) : (d.get? name).isNone = (e.get? name).isNone := by
      rw [Bool.eq_iff_iff, Option.isNone_iff_eq_none, Option.isNone_iff_eq_none,
        Table.get?_eq_none_iff, Table.get?_eq_none_iff, hnames.mem_iff]
    simp only [violationsOf, hmissing]
  | properties properties => exact hproperties properties rfl
  | oneOf texts => cases hrule
  | _ => rfl

theorem ruleViolations_table_eq
    (h : ∀ rule ∈ rules, violationsOf path (.table d) rule = violationsOf path (.table e) rule) :
    ruleViolations path (.table d) rules = ruleViolations path (.table e) rules := by
  induction rules with
  | nil => rfl
  | cons rule rules ih =>
    obtain ⟨hrule, hrules⟩ := List.forall_mem_cons.1 h
    rw [ruleViolations, ruleViolations, hrule, ih hrules]

/-- What the values of two tables break, name by name. -/
theorem propertyViolations_eq (h : ∀ p ∈ properties, d.get? p.1 = e.get? p.1 ∨
      ∃ fs gs : Table, d.get? p.1 = some (.table fs) ∧ e.get? p.1 = some (.table gs) ∧
        ruleViolations (path ++ [p.1]) (.table fs) p.2 =
          ruleViolations (path ++ [p.1]) (.table gs) p.2) :
    propertyViolations path d properties = propertyViolations path e properties := by
  induction properties with
  | nil => rfl
  | cons p properties ih =>
    obtain ⟨hp, hproperties⟩ := List.forall_mem_cons.1 h
    rw [propertyViolations, propertyViolations, ih hproperties]
    rcases hp with hsame | ⟨fs, gs, hd, he, hinner⟩
    · rw [hsame]
    · simp only [hd, he, hinner]

/-- Tables that have the same at all names break the same rules. -/
theorem ruleViolations_eq_of_same (h : Table.IsReordering [] d e)
    (hrules : ∀ rule ∈ rules, rule.takesTables = true) :
    ruleViolations path (.table d) rules = ruleViolations path (.table e) rules :=
  ruleViolations_table_eq fun rule hrule =>
    violationsOf_table_eq h.names_perm (hrules rule hrule) fun _ _ =>
      propertyViolations_eq fun p _ => .inl (h.get?_eq p.1)

/-- The values of tables in another order break the same rules, name by name. -/
theorem propertyViolations_eq_of_isReordering (h : Table.IsReordering inner d e)
    (hproperties : ∀ p ∈ properties, p.1 ∈ inner → ∀ rule ∈ p.2, rule.takesTables = true) :
    propertyViolations path d properties = propertyViolations path e properties := by
  refine propertyViolations_eq fun p hp => ?_
  by_cases hname : p.1 ∈ inner
  · refine (h.at_name hname).imp_right ?_
    rintro ⟨fs, gs, hd, he, hinner⟩
    exact ⟨fs, gs, hd, he, ruleViolations_eq_of_same hinner (hproperties p hp hname)⟩
  · exact .inl (h.outside p.1 hname)

/-- **Tables in another order break the same rules in the same way**, if no rule has anything against
a table where one may stand. -/
theorem ruleViolations_eq_of_isReordering (h : Table.IsReordering inner d e)
    (hrules : rules.all (·.takesTablesAt inner) = true) :
    ruleViolations path (.table d) rules = ruleViolations path (.table e) rules := by
  refine ruleViolations_table_eq fun rule hrule => ?_
  have hrule : rule.takesTablesAt inner = true := List.all_eq_true.1 hrules rule hrule
  cases rule with
  | properties properties =>
    refine violationsOf_table_eq h.names_perm rfl fun _ heq => ?_
    obtain rfl := Rule.properties.inj heq
    refine propertyViolations_eq_of_isReordering h fun p hp hname => ?_
    have htaken := List.all_eq_true.1 hrule p hp
    rw [List.contains_iff_mem.2 hname, Bool.not_true, Bool.false_or] at htaken
    exact List.all_eq_true.1 htaken
  | _ => exact violationsOf_table_eq h.names_perm hrule fun _ => nofun

/-- A check of tables in another order comes to the same. -/
theorem check_eq_of_isReordering (h : Table.IsReordering inner d e)
    (hrules : rules.all (·.takesTablesAt inner) = true) :
    check rules (.table d) = check rules (.table e) := by
  rw [check, check, ruleViolations_eq_of_isReordering h hrules]

end Tables

end Schema

end LabelPress
