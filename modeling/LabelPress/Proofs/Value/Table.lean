import LabelPress.Value.Display

/-!
# Tables, entry by entry

Looking a name up in a table, by the first entry, and the two things that are kept from there on: a
name that is looked up in vain is none of the names, and what is found in a value that can be shown
can be shown itself.
-/

namespace LabelPress

namespace Table

variable {entries : Table} {name : Text} {v : Value}

@[simp] theorem get?_nil (name : Text) : get? [] name = none := rfl

theorem get?_cons (n : Text) (v : Value) (entries : Table) (name : Text) :
    get? ((n, v) :: entries) name = if n = name then some v else get? entries name := by
  by_cases h : n = name
  · simp [get?, h]
  · simp [get?, h]

/-- Two entries with different names can be in either order. -/
theorem get?_swap {m n : Text} (h : m ≠ n) (v w : Value) (entries : Table) (name : Text) :
    get? ((m, v) :: (n, w) :: entries) name = get? ((n, w) :: (m, v) :: entries) name := by
  simp only [get?_cons]
  by_cases hm : m = name
  · rw [if_pos hm, if_neg fun hn => h (hm.trans hn.symm), if_pos hm]
  · rw [if_neg hm, if_neg hm]

@[simp] theorem names_cons (n : Text) (v : Value) (entries : Table) :
    names ((n, v) :: entries) = n :: names entries := rfl

/-- A name is looked up in vain exactly if it is none of the names. -/
theorem get?_eq_none_iff : get? entries name = none ↔ name ∉ names entries := by
  induction entries with
  | nil => simp [names]
  | cons e entries ih =>
    obtain ⟨n, v⟩ := e
    rw [get?_cons, names_cons, List.mem_cons, not_or]
    by_cases h : n = name
    · simp [h]
    · rw [if_neg h, ih, and_iff_right (Ne.symm h)]

theorem get?_append (a b : Table) (name : Text) :
    get? (a ++ b) name = (get? a name).or (get? b name) := by
  induction a with
  | nil => rfl
  | cons e a ih =>
    obtain ⟨n, v⟩ := e
    rw [List.cons_append, get?_cons, get?_cons, ih]
    split <;> rfl

/-- What is found under a name stands in the table. -/
theorem mem_of_get? (h : get? entries name = some v) : (name, v) ∈ entries := by
  induction entries with
  | nil => cases h
  | cons e entries ih =>
    obtain ⟨n, w⟩ := e
    rw [get?_cons] at h
    by_cases hn : n = name
    · rw [if_pos hn] at h
      cases h
      exact hn ▸ .head _
    · rw [if_neg hn] at h
      exact .tail _ (ih h)

/-- If names are distinct, what is left out of a table is found under none. -/
theorem get?_filter (h : (names entries).Nodup) (keep : Value → Bool) :
    get? (entries.filter fun e => keep e.2) name = (get? entries name).filter keep := by
  induction entries with
  | nil => rfl
  | cons e entries ih =>
    obtain ⟨n, w⟩ := e
    obtain ⟨hn, hentries⟩ := List.nodup_cons.1 h
    rw [get?_cons, List.filter_cons]
    by_cases hname : n = name
    · subst hname
      have hnone : get? entries n = none := get?_eq_none_iff.2 hn
      cases hkeep : keep w <;> simp [get?_cons, ih hentries, hnone, Option.filter, hkeep]
    · cases keep w <;> simp [get?_cons, ih hentries, hname]

/-- A table in which nothing is found under a name. -/
def without (name : Text) (entries : Table) : Table := entries.filter fun e => e.1 ≠ name

theorem get?_without_self (name : Text) (entries : Table) : get? (without name entries) name = none := by
  refine get?_eq_none_iff.2 fun h => ?_
  obtain ⟨e, he, rfl⟩ := List.mem_map.1 h
  simp [without] at he

theorem get?_without_of_ne {other : Text} (h : other ≠ name) (entries : Table) :
    get? (without name entries) other = get? entries other := by
  induction entries with
  | nil => rfl
  | cons e entries ih =>
    obtain ⟨n, v⟩ := e
    by_cases hn : n = name
    · subst hn
      rw [get?_cons, if_neg h.symm, ← ih]
      simp [without]
    · rw [get?_cons, ← ih]
      simp [without, hn, get?_cons]

/-- A value that is there already is put in its own place. -/
theorem put_eq_self (h : get? entries name = some v) : entries.put name v = entries := by
  induction entries with
  | nil => cases h
  | cons e entries ih =>
    obtain ⟨n, w⟩ := e
    rw [get?_cons] at h
    by_cases hn : n = name
    · rw [if_pos hn] at h
      cases h
      rw [put, if_pos hn]
    · rw [if_neg hn] at h
      rw [put, if_neg hn, ih h]

/-- Whether two tables have the same at every name but one. -/
def SameBut (name : Text) (d e : Table) : Prop :=
  ∀ other, other ≠ name → get? d other = get? e other

theorem sameBut_put (name : Text) (v : Value) (entries : Table) :
    SameBut name entries (entries.put name v) :=
  fun _ hne => (get?_put_of_ne hne v entries).symm

theorem sameBut_without (name : Text) (entries : Table) :
    SameBut name entries (entries.without name) :=
  fun _ hne => (get?_without_of_ne hne entries).symm

/-- A value that is put into a table has its name to itself, as all others have theirs. -/
theorem nodup_names_put (h : (names entries).Nodup) : (names (entries.put name v)).Nodup := by
  induction entries with
  | nil => exact List.nodup_cons.2 ⟨List.not_mem_nil, .nil⟩
  | cons e entries ih =>
    obtain ⟨n, w⟩ := e
    unfold put
    split
    · exact h
    · next hne =>
      obtain ⟨hn, hentries⟩ := List.nodup_cons.1 h
      have hput : n ∉ names (put name v entries) := by
        rw [← get?_eq_none_iff, get?_put_of_ne hne]
        exact get?_eq_none_iff.2 hn
      exact List.nodup_cons.2 ⟨hput, ih hentries⟩

/-- What stands in a table after a value was put into it. -/
theorem mem_of_mem_put {e : Text × Value} (h : e ∈ entries.put name v) :
    e ∈ entries ∨ e = (name, v) := by
  induction entries with
  | nil => exact .inr (List.mem_singleton.1 h)
  | cons f entries ih =>
    obtain ⟨n, w⟩ := f
    unfold put at h
    split at h
    next hname =>
      rcases List.mem_cons.1 h with rfl | h
      · exact .inr (congrArg (·, v) hname)
      · exact .inl (.tail _ h)
    next =>
      rcases List.mem_cons.1 h with rfl | h
      · exact .inl (.head _)
      · exact (ih h).imp_left (.tail _)

end Table

namespace Value

mutual

/-- Whether no table in a value has a name twice. -/
def hasDistinctNames : Value → Bool
  | .list items => itemsHaveDistinctNames items
  | .table entries => (Table.names entries).Nodup && entriesHaveDistinctNames entries
  | _ => true

/-- Whether no table in the items of a list has a name twice. -/
def itemsHaveDistinctNames : List Value → Bool
  | [] => true
  | v :: vs => hasDistinctNames v && itemsHaveDistinctNames vs

/-- Whether no table in the values of a table has a name twice. -/
def entriesHaveDistinctNames : List (Text × Value) → Bool
  | [] => true
  | (_, v) :: entries => hasDistinctNames v && entriesHaveDistinctNames entries

end

variable {entries : Table} {name : Text} {v : Value}

theorem itemsHaveDistinctNames_iff {items : List Value} :
    itemsHaveDistinctNames items = true ↔ ∀ v ∈ items, v.hasDistinctNames = true := by
  induction items with
  | nil => simp [itemsHaveDistinctNames]
  | cons v items ih => simp [itemsHaveDistinctNames, ih]

theorem hasDistinctNames_table_iff : (Value.table entries).hasDistinctNames = true ↔
    (Table.names entries).Nodup ∧ ∀ e ∈ entries, e.2.hasDistinctNames = true := by
  have hentries (entries : Table) : entriesHaveDistinctNames entries = true ↔
      ∀ e ∈ entries, e.2.hasDistinctNames = true := by
    induction entries with
    | nil => simp [entriesHaveDistinctNames]
    | cons e entries ih => simp [entriesHaveDistinctNames, ih]
  rw [hasDistinctNames, Bool.and_eq_true, decide_eq_true_iff, hentries]

/-- A table whose names are distinct keeps that when a value like it is put into it. -/
theorem hasDistinctNames_put (h : (Value.table entries).hasDistinctNames = true)
    (hv : v.hasDistinctNames = true) : (Value.table (entries.put name v)).hasDistinctNames = true := by
  rw [hasDistinctNames_table_iff] at h ⊢
  refine ⟨Table.nodup_names_put h.1, fun e he => ?_⟩
  rcases Table.mem_of_mem_put he with he | he
  · exact h.2 e he
  · rwa [he]

theorem areShowable_iff {items : List Value} :
    areShowable items = true ↔ ∀ v ∈ items, v.isShowable = true := by
  induction items with
  | nil => simp [areShowable]
  | cons v items ih => simp [areShowable, ih]

theorem entriesShowable_iff :
    entriesShowable entries = true ↔ ∀ e ∈ entries, e.2.isShowable = true := by
  induction entries with
  | nil => simp [entriesShowable]
  | cons e entries ih => simp [entriesShowable, ih]

/-- What a table with distinct names all through has under a name has distinct names all through. -/
theorem hasDistinctNames_of_get? (h : (Value.table entries).hasDistinctNames = true)
    (hv : entries.get? name = some v) : v.hasDistinctNames = true :=
  (hasDistinctNames_table_iff.1 h).2 _ (Table.mem_of_get? hv)

/-- What a table that can be shown has under a name can be shown. -/
theorem isShowable_of_get? (h : (Value.table entries).isShowable = true)
    (hv : entries.get? name = some v) : v.isShowable = true := by
  rw [isShowable, entriesShowable_iff] at h
  exact h _ (Table.mem_of_get? hv)

end Value

end LabelPress
