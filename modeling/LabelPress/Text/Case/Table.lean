import LabelPress.Text.Basic

/-!
# Tables of case mappings

A mapping of letters is mostly a constant distance over a run of letters, every one or every
second of them, with some letters that become several. A `CaseTable` holds a mapping in that
form, in order, so that a look-up stops at the first entry past the letter.
-/

namespace LabelPress

/-- The letters `first`, `first + step`, … up to `last`, all moved by one distance. -/
structure CaseRun where
  first : Nat
  last : Nat
  step : Nat
  distance : Int

/-- A case mapping: runs of letters that become one letter, and letters that become several. -/
structure CaseTable where
  runs : List CaseRun
  expansions : List (Nat × List Nat)

namespace CaseTable

/-- The image of a letter under the first run that holds it. -/
def ofRuns? (n : Nat) : List CaseRun → Option Nat
  | [] => none
  | r :: rs =>
    if n < r.first then none
    else if n ≤ r.last ∧ (n - r.first) % r.step = 0 then some (n + r.distance).toNat
    else ofRuns? n rs

/-- The image of a letter among the sorted expansions. -/
def ofExpansions? (n : Nat) : List (Nat × List Nat) → Option (List Nat)
  | [] => none
  | (m, image) :: es =>
    if n < m then none else if n = m then some image else ofExpansions? n es

/-- What a code point becomes; one that the table does not hold stays. -/
def map (table : CaseTable) (c : CodePoint) : Text :=
  match ofRuns? c.value table.runs with
  | some n => [.ofNat n]
  | none =>
    match ofExpansions? c.value table.expansions with
    | some image => image.map .ofNat
    | none => [c]

end CaseTable

end LabelPress
