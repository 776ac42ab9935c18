import LabelPress.Proofs.Value.Table
import Mathlib.Data.List.Nodup

/-!
# Tables in another order

What a table holds is what it has at each name; the order of its entries is not a part of that. Two
tables are a reordering of each other if they have the same at all names, and tables that have the same
at all names where that is allowed. In particular they have the same names, each of them once.
-/

namespace LabelPress

namespace Table

variable {inner : List Text} {d e : Table} {name : Text}

/-- Whether two tables have the same at all names, but that at some of them both may have tables that
have the same at all names. -/
structure Agree (inner : List Text) (d e : Table) : Prop where
  outside : ∀ name ∉ inner, d.get? name = e.get? name
  inside : ∀ name ∈ inner, d.get? name = e.get? name ∨
    ∃ fs gs : Table, d.get? name = some (.table fs) ∧ e.get? name = some (.table gs) ∧
      ∀ name, fs.get? name = gs.get? name

/-- Whether two tables, which have no name twice, differ only in the order of their entries and in that
of the entries of the tables at some names. -/
structure IsReordering (inner : List Text) (d e : Table) : Prop extends Agree inner d e where
  left : (Value.table d).hasDistinctNames = true
  right : (Value.table e).hasDistinctNames = true

theorem Agree.get?_eq_none_iff (h : Agree inner d e) :
    d.get? name = none ↔ e.get? name = none := by
  by_cases hname : name ∈ inner
  · rcases h.inside name hname with h | ⟨fs, gs, hd, he, -⟩
    · rw [h]
    · simp [hd, he]
  · rw [h.outside name hname]

namespace IsReordering

/-- **Tables in another order have the same names**, in another order. -/
theorem names_perm (h : IsReordering inner d e) : (names d).Perm (names e) := by
  rw [List.perm_ext_iff_of_nodup (Value.hasDistinctNames_table_iff.1 h.left).1
    (Value.hasDistinctNames_table_iff.1 h.right).1]
  intro name
  rw [← not_iff_not, ← Table.get?_eq_none_iff, ← Table.get?_eq_none_iff]
  exact h.get?_eq_none_iff

/-- What two tables in another order have at a name is the same, or tables in another order. -/
theorem at_name (h : IsReordering inner d e) (hname : name ∈ inner) :
    d.get? name = e.get? name ∨
      ∃ fs gs : Table, d.get? name = some (.table fs) ∧ e.get? name = some (.table gs) ∧
        IsReordering [] fs gs := by
  refine (h.inside name hname).imp_right ?_
  rintro ⟨fs, gs, hd, he, hsame⟩
  exact ⟨fs, gs, hd, he, ⟨fun name _ => hsame name, nofun⟩, Value.hasDistinctNames_of_get? h.left hd,
    Value.hasDistinctNames_of_get? h.right he⟩

/-- Tables that have the same at all names have it at each. -/
theorem get?_eq (h : IsReordering [] d e) (name : Text) : d.get? name = e.get? name :=
  h.outside name List.not_mem_nil

end IsReordering

end Table

end LabelPress
