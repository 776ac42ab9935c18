import LabelPress.Proofs.Action
import LabelPress.Proofs.Value.Table
import LabelPress.Schema.Basic

/-!
# Keeping the rules of a schema

For each kind of rule, the values that do not break it, said without violations: no lemma below
mentions the path at which a value stands, so that what is said of a value holds of it wherever it
is found. A value that can be shown is never in the way of a report, since all that a violation
shows is a part of it.
-/

namespace LabelPress

namespace Schema

variable {path : List Text} {value : Value}

/-! ## Values of a kind -/

theorem has_text_iff : Kind.text.has value = true ↔ ∃ t, value = .text t := by
  cases value <;> simp [Kind.has]

theorem has_bool_iff : Kind.bool.has value = true ↔ ∃ b, value = .bool b := by
  cases value <;> simp [Kind.has]

theorem has_table_iff : Kind.table.has value = true ↔ ∃ entries, value = .table entries := by
  cases value <;> simp [Kind.has]

theorem has_null_iff : Kind.null.has value = true ↔ value = .null := by
  cases value <;> simp [Kind.has]

theorem has_integer_iff : Kind.integer.has value = true ↔
    (∃ n, value = .int n) ∨ ∃ x n, value = .float x ∧ x.toInt? = some n := by
  cases value <;> simp [Kind.has, Option.isSome_iff_exists]

/-! ## Values that keep a rule -/

@[simp] theorem violationsOf_kinds_eq_nil {allowed : List Kind} :
    violationsOf path value (.kinds allowed) = [] ↔ ∃ k ∈ allowed, k.has value = true := by
  simp [violationsOf]

@[simp] theorem violationsOf_closed_eq_nil {allowed : List Text} :
    violationsOf path value (.closed allowed) = [] ↔
      ∀ entries, value = .table entries → ∀ name ∈ Table.names entries, name ∈ allowed := by
  cases value <;> try simp [violationsOf]
  case table entries =>
    have hfilter : ((Table.names entries).filter fun name => !allowed.contains name) = [] ↔
        ∀ name ∈ Table.names entries, name ∈ allowed := by simp
    rw [← hfilter]
    split <;> simp_all

@[simp] theorem violationsOf_required_eq_nil {names : List Text} :
    violationsOf path value (.required names) = [] ↔
      ∀ entries, value = .table entries → ∀ name ∈ names, ∃ v, Table.get? entries name = some v := by
  cases value <;> simp [violationsOf, Option.ne_none_iff_exists']

@[simp] theorem violationsOf_pattern_eq_nil {p : Pattern} :
    violationsOf path value (.pattern p) = [] ↔ ∀ t, value = .text t → p.found t = true := by
  cases value <;> simp [violationsOf]

@[simp] theorem violationsOf_nonEmpty_eq_nil :
    violationsOf path value .nonEmpty = [] ↔ value ≠ .text [] := by
  cases value <;> simp [violationsOf]

@[simp] theorem violationsOf_oneOf_eq_nil {texts : List Text} :
    violationsOf path value (.oneOf texts) = [] ↔ ∃ t ∈ texts, value = .text t := by
  have htext (t : Text) : value.text? = some t ↔ value = .text t := by
    cases value <;> simp [Value.text?]
  simp [violationsOf, htext]

@[simp] theorem violationsOf_atLeast_eq_nil {bound : Int} :
    violationsOf path value (.atLeast bound) = [] ↔ isBelow bound value = false := by
  simp [violationsOf]

@[simp] theorem violationsOf_atMost_eq_nil {bound : Int} :
    violationsOf path value (.atMost bound) = [] ↔ isOver bound value = false := by
  simp [violationsOf]

@[simp] theorem violationsOf_above_eq_nil {bound : Int} :
    violationsOf path value (.above bound) = [] ↔ isAtMost bound value = false := by
  simp [violationsOf]

@[simp] theorem ruleViolations_nil : ruleViolations path value [] = [] := by
  simp [ruleViolations]

@[simp] theorem ruleViolations_cons_eq_nil {rule : Rule} {rules : List Rule} :
    ruleViolations path value (rule :: rules) = [] ↔
      violationsOf path value rule = [] ∧ ruleViolations path value rules = [] := by
  simp [ruleViolations]

theorem propertyViolations_eq_nil {entries : Table} {properties : List (Text × List Rule)} :
    propertyViolations path entries properties = [] ↔
      ∀ p ∈ properties, ∀ v, Table.get? entries p.1 = some v →
        ruleViolations (path ++ [p.1]) v p.2 = [] := by
  induction properties with
  | nil => simp [propertyViolations]
  | cons p properties ih =>
    obtain ⟨name, rules⟩ := p
    rw [propertyViolations, List.append_eq_nil_iff, ih, List.forall_mem_cons]
    cases Table.get? entries name <;> simp

@[simp] theorem violationsOf_properties_eq_nil {properties : List (Text × List Rule)} :
    violationsOf path value (.properties properties) = [] ↔
      ∀ entries, value = .table entries → ∀ p ∈ properties, ∀ v,
        Table.get? entries p.1 = some v → ruleViolations (path ++ [p.1]) v p.2 = [] := by
  cases value <;> simp [violationsOf, propertyViolations_eq_nil]

/-! ## Violations that can be reported -/

mutual

/-- Every violation of a rule by a value that can be shown can be shown. -/
theorem isShowable_of_mem_violationsOf {path : List Text} {value : Value}
    (h : value.isShowable = true) :
    ∀ rule : Rule, ∀ v ∈ violationsOf path value rule, v.cause.isShowable = true
  | .kinds _ | .oneOf _ | .atLeast _ | .atMost _ | .above _ => by
    simp only [violationsOf]
    split <;> simp [Cause.isShowable, h]
  | .closed _ => by
    cases value <;> simp only [violationsOf, List.not_mem_nil, false_imp_iff, implies_true]
    split <;> simp [Cause.isShowable]
  | .required _ => by
    cases value <;> simp only [violationsOf, List.not_mem_nil, false_imp_iff, implies_true]
    intro v hv
    obtain ⟨name, -, rfl⟩ := List.mem_map.1 hv
    rfl
  | .pattern _ | .nonEmpty => by
    cases value <;> simp only [violationsOf, List.not_mem_nil, false_imp_iff, implies_true]
    split <;> simp [Cause.isShowable]
  | .properties properties => by
    cases value <;> simp only [violationsOf, List.not_mem_nil, false_imp_iff, implies_true]
    exact isShowable_of_mem_propertyViolations h properties

theorem isShowable_of_mem_ruleViolations {path : List Text} {value : Value}
    (h : value.isShowable = true) :
    ∀ rules : List Rule, ∀ v ∈ ruleViolations path value rules, v.cause.isShowable = true
  | [] => by simp [ruleViolations]
  | rule :: rules => by
    simp only [ruleViolations, List.forall_mem_append]
    exact ⟨isShowable_of_mem_violationsOf h rule, isShowable_of_mem_ruleViolations h rules⟩

theorem isShowable_of_mem_propertyViolations {path : List Text} {entries : Table}
    (h : (Value.table entries).isShowable = true) :
    ∀ properties : List (Text × List Rule), ∀ v ∈ propertyViolations path entries properties,
      v.cause.isShowable = true
  | [] => by simp [propertyViolations]
  | (name, rules) :: properties => by
    simp only [propertyViolations, List.forall_mem_append]
    refine ⟨?_, isShowable_of_mem_propertyViolations h properties⟩
    split
    · next hv => exact isShowable_of_mem_ruleViolations (Value.isShowable_of_get? h hv) rules
    · exact nofun

end

/-! ## What a check says -/

variable {rules : List Rule}

theorem first?_eq_none_iff {violations : List Violation} :
    first? violations = none ↔ violations = [] := by
  cases violations with
  | nil => simp [first?]
  | cons v violations =>
    simp only [first?]
    split
    · simp
    · split <;> simp

/-- **A check is passed exactly by the values that keep the rules.** -/
theorem check_eq_none_iff : check rules value = .ok none ↔ ruleViolations [] value rules = [] := by
  simp only [check]
  split
  · simp [first?_eq_none_iff]
  · next h =>
    refine ⟨nofun, fun hnil => absurd ?_ h⟩
    simp [hnil]

/-- A check is a fault of one kind, and only if some violation cannot be shown. -/
theorem onlyRaises_check_iff {kind : FaultKind} (hkind : kind ≠ .value) :
    OnlyRaises kind (check rules value) ↔
      ∀ v ∈ ruleViolations [] value rules, v.cause.isShowable = true := by
  rw [← List.all_eq_true]
  simp only [check]
  split
  · next h => exact iff_of_true OnlyRaises.ok h
  · next h => exact iff_of_false (fun hraises => hkind (OnlyRaises.error_iff.1 hraises).symm) h

/-- A check of a value that can be shown is no fault, and the fault of a check is that there is
too long a number. -/
theorem eq_tooLong_of_check_eq_error {f : Fault} (h : check rules value = .error f) :
    f = .tooLong ∧ value.isShowable = false := by
  simp only [check] at h
  split at h
  · cases h
  · next hall =>
    refine ⟨(Except.error.inj h).symm, Bool.eq_false_iff.2 fun hshow => hall ?_⟩
    exact List.all_eq_true.2 (isShowable_of_mem_ruleViolations hshow rules)

end Schema

end LabelPress
