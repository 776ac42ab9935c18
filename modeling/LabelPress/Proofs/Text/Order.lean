import LabelPress.Text.Order
import Mathlib.Data.List.Lex
import Mathlib.Data.List.Sort

/-!
# The order of texts

Texts are in the order of the lists of numbers that their code points have, and this order is a
linear one. So there is only one way to put texts in order, and it does not matter in which order
they came.
-/

namespace LabelPress

namespace CodePoint

/-- A code point is known by its number. -/
theorem value_injective : Function.Injective value := by
  -- The number of a half lies where no scalar value has its own.
  have hscalar (c : Char) (half : Fin 2048) : c.toNat ≠ 0xD800 + half.val := by
    have hc : c.toNat < 0xD800 ∨ 0xDFFF < c.toNat ∧ c.toNat < 0x110000 := c.valid
    omega
  rintro (c | half) (d | other) h
  · exact congrArg scalar (Char.toNat_inj.1 h)
  · exact absurd h (hscalar c other)
  · exact absurd h.symm (hscalar d half)
  · exact congrArg lone (Fin.ext (Nat.add_left_cancel h))

end CodePoint

namespace Text

/-- The numbers of the code points of a text. -/
def numbers (t : Text) : List Nat := t.map CodePoint.value

theorem numbers_injective : Function.Injective numbers :=
  List.map_injective_iff.2 CodePoint.value_injective

end Text

section Lexicographic

variable {α β : Type} [LinearOrder β] {f : α → β} {a b : α} {as bs : List α}

/-- Two lists that differ in their first elements are in the order of these. -/
theorem map_cons_le_iff :
    (a :: as).map f ≤ (b :: bs).map f ↔ f a < f b ∨ f a = f b ∧ as.map f ≤ bs.map f := by
  simp only [List.map_cons, le_iff_lt_or_eq, List.cons_lt_cons_iff, List.cons.injEq]
  tauto

end Lexicographic

namespace Text

/-- **The order of texts** is that of the numbers of their code points, a prefix coming first. -/
theorem le_iff {s t : Text} : le s t = true ↔ s.numbers ≤ t.numbers := by
  induction s generalizing t with
  | nil => exact iff_of_true rfl (not_lt.1 (List.not_lt_nil _))
  | cons c s ih =>
    cases t with
    | nil => exact iff_of_false nofun (List.nil_lt_cons _ _).not_ge
    | cons d t =>
      rw [numbers, numbers, map_cons_le_iff, le]
      by_cases h : c = d
      · simpa [h, numbers] using ih
      · have hne : c.value ≠ d.value := fun hvalue => h (CodePoint.value_injective hvalue)
        rw [if_neg h, decide_eq_true_iff, le_iff_lt_or_eq]
        simp [hne]

end Text

section Sorting

variable {α : Type} (le : α → α → Bool) {as bs : List α}

theorem insertBy_map {β : Type} (le : β → β → Bool) (f : α → β) (a : α) (as : List α) :
    insertBy le (f a) (as.map f) = (insertBy (fun a b => le (f a) (f b)) a as).map f := by
  induction as with
  | nil => rfl
  | cons b as ih =>
    simp only [insertBy, List.map_cons, ih]
    split <;> rfl

/-- What is made of elements one by one is sorted as they are, if it is compared as they are. -/
theorem sortBy_map {β : Type} (le : β → β → Bool) (f : α → β) (as : List α) :
    sortBy le (as.map f) = (sortBy (fun a b => le (f a) (f b)) as).map f := by
  induction as with
  | nil => rfl
  | cons a as ih =>
    have hcons {γ : Type} (le : γ → γ → Bool) (c : γ) (cs : List γ) :
        sortBy le (c :: cs) = insertBy le c (sortBy le cs) := rfl
    rw [List.map_cons, hcons, hcons, ih, insertBy_map]

theorem insertBy_eq_orderedInsert (a : α) (as : List α) :
    insertBy le a as = as.orderedInsert (le · · = true) a := by
  induction as with
  | nil => rfl
  | cons b as ih => rw [insertBy, ih, List.orderedInsert_cons]

/-- The sort is the library's own. -/
theorem sortBy_eq_insertionSort (as : List α) : sortBy le as = as.insertionSort (le · · = true) := by
  induction as with
  | nil => rfl
  | cons a as ih =>
    rw [List.insertionSort_cons, ← ih, ← insertBy_eq_orderedInsert]
    rfl

/-- Lists with the same elements are sorted into the same list by a linear order. -/
theorem sortBy_eq_of_perm [IsLinearOrder α (le · · = true)] (h : as.Perm bs) :
    sortBy le as = sortBy le bs := by
  have hsorted (cs : List α) : (sortBy le cs).Pairwise (le · · = true) :=
    sortBy_eq_insertionSort le cs ▸ List.pairwise_insertionSort _ _
  exact ((sortBy_perm le as).trans (h.trans (sortBy_perm le bs).symm)).eq_of_pairwise'
    (hsorted as) (hsorted bs)

end Sorting

namespace Text

instance : IsLinearOrder Text (le · · = true) where
  refl t := le_iff.2 le_rfl
  trans _ _ _ h h' := le_iff.2 ((le_iff.1 h).trans (le_iff.1 h'))
  antisymm _ _ h h' := numbers_injective ((le_iff.1 h).antisymm (le_iff.1 h'))
  total s t := by
    rw [le_iff, le_iff]
    exact le_total _ _

/-- **In whatever order texts come, they are put in the same order.** -/
theorem sorted_eq_of_perm {ss ts : List Text} (h : ss.Perm ts) : sorted ss = sorted ts :=
  sortBy_eq_of_perm le h

end Text

end LabelPress
