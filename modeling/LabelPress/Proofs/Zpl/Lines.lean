import LabelPress.Proofs.Text.Digits
import LabelPress.Proofs.Text.Lines
import LabelPress.Zpl.Basic

/-!
# The lines of a document

Elements are written with fixed words and numbers around the texts that they are given, and no fixed
word holds a line feed, a tilde or a surrogate half. So one that is in a document comes from one of
those texts. Where there is no line feed in them, the lines of the text of a document are the lines of
its elements.
-/

namespace LabelPress

/-- A code point that no fixed word of a document holds: a line feed, a tilde, or a surrogate half. -/
def CodePoint.IsForeign (c : CodePoint) : Prop :=
  c = .scalar '\n' ∨ c = .scalar '~' ∨ c.isScalar = false

instance : DecidablePred CodePoint.IsForeign := fun c =>
  inferInstanceAs (Decidable (c = .scalar '\n' ∨ c = .scalar '~' ∨ c.isScalar = false))

namespace CodePoint.IsForeign

variable {c : CodePoint}

theorem not_mem_ofString (hc : c.IsForeign) {s : String}
    (hs : '\n' ∉ s.toList ∧ '~' ∉ s.toList) : c ∉ Text.ofString s := by
  intro hmem
  obtain ⟨d, hd, rfl⟩ := List.mem_map.1 hmem
  rcases hc with hfeed | htilde | hhalf
  · exact hs.1 (CodePoint.scalar.inj hfeed ▸ hd)
  · exact hs.2 (CodePoint.scalar.inj htilde ▸ hd)
  · cases hhalf

theorem isAsciiDigit_eq_false (hc : c.IsForeign) : c.isAsciiDigit = false := by
  rcases hc with rfl | rfl | hhalf
  · rfl
  · rfl
  · cases c with
    | scalar c => cases hhalf
    | lone half => rfl

end CodePoint.IsForeign

/-- A code point that a document holds as part of its commands or not at all: a foreign one, or the
caret that each command starts with. -/
def CodePoint.IsReserved (c : CodePoint) : Prop := c.IsForeign ∨ c = .scalar '^'

instance : DecidablePred CodePoint.IsReserved := fun c =>
  inferInstanceAs (Decidable (c.IsForeign ∨ c = .scalar '^'))

namespace CodePoint.IsReserved

variable {c : CodePoint}

theorem not_mem (hc : c.IsReserved) {t : Text} (ht : ∀ d ∈ t, ¬ d.IsReserved) : c ∉ t :=
  fun hmem => ht c hmem hc

theorem isAsciiDigit_eq_false (hc : c.IsReserved) : c.isAsciiDigit = false := by
  rcases hc with hforeign | rfl
  · exact hforeign.isAsciiDigit_eq_false
  · rfl

theorem not_mem_ofInt (hc : c.IsReserved) (n : Int) : c ∉ Text.ofInt n := by
  refine Text.not_mem_ofInt hc.isAsciiDigit_eq_false ?_ n
  rintro rfl
  exact absurd hc (by decide)

end CodePoint.IsReserved

namespace Zpl

/-- The texts that an element is given. -/
def Element.texts : Element → List Text
  | .font name _ => [name]
  | .field _ _ text _ => [text]
  | .block _ _ text _ _ justify => [text, justify]
  | .graphic _ _ command => [command]
  | .circle _ _ parameters => parameters
  | .code128 _ _ value _ => [value]
  | .raw line => [line]
  | .start | .stop | .barcodeDefaults .. | .box .. => []

variable {c : CodePoint}

/-- There is no reserved code point in parameters with commas between them, unless in one of them. -/
theorem Element.not_mem_join (hc : c.IsReserved) {ts : List Text} (h : ∀ t ∈ ts, c ∉ t) :
    c ∉ Text.join "," ts := by
  intro hmem
  rcases Text.mem_join hmem with hcomma | ⟨t, ht, hct⟩
  · exact hc.not_mem (by decide) hcomma
  · exact h t ht hct

theorem Element.not_mem_numbers (hc : c.IsReserved) (ns : List Int) : c ∉ numbers ns := by
  refine not_mem_join hc fun t ht => ?_
  obtain ⟨n, -, rfl⟩ := List.mem_map.1 ht
  exact hc.not_mem_ofInt n

/-- No line of an element holds a foreign code point, unless one of its texts does. -/
theorem Element.not_mem_lines (hc : c.IsForeign) {e : Element} (h : ∀ t ∈ e.texts, c ∉ t) :
    ∀ l ∈ e.lines, c ∉ l := by
  have hfixed (s : String) (hs : '\n' ∉ s.toList ∧ '~' ∉ s.toList) : c ∉ Text.ofString s :=
    hc.not_mem_ofString hs
  have hint (n : Int) : c ∉ Text.ofInt n := CodePoint.IsReserved.not_mem_ofInt (.inl hc) n
  have hnumbers (ns : List Int) : c ∉ numbers ns := not_mem_numbers (.inl hc) ns
  have hwhen (p : Bool) : c ∉ Text.when (p = true) "^FR" := by
    cases p with
    | false => exact List.not_mem_nil
    | true => exact hfixed "^FR" (by decide)
  -- What is left of each line, once fixed words and numbers are passed over, is its texts.
  cases e <;>
    simp (disch := decide) only [texts, lines, graphicLine, origin, List.mem_cons,
      List.not_mem_nil, or_false, forall_eq, forall_eq_or_imp, List.mem_append, not_or, hint,
      hfixed, hnumbers, hwhen, not_false_eq_true, true_and] at h ⊢
  case circle => exact not_mem_join (.inl hc) h
  case block => exact h.symm
  all_goals exact h

/-- What is in one of the texts of an element is in one of its lines. -/
theorem Element.mem_lines {e : Element} {t : Text} (ht : t ∈ e.texts) (hc : c ∈ t) :
    ∃ l ∈ e.lines, c ∈ l := by
  cases e <;>
    simp only [texts, List.mem_cons, List.not_mem_nil, or_false] at ht
  case circle x y parameters =>
    refine ⟨_, List.mem_singleton_self _, ?_⟩
    simp [graphicLine, Text.mem_join_of_mem ht hc]
  case block =>
    refine ⟨_, List.mem_singleton_self _, ?_⟩
    rcases ht with rfl | rfl <;> simp [hc]
  case code128 =>
    obtain rfl := ht
    exact ⟨_, List.mem_cons_of_mem _ (List.mem_singleton_self _), by simp [hc]⟩
  all_goals
    obtain rfl := ht
    exact ⟨_, List.mem_singleton_self _, by simp [graphicLine, hc]⟩

/-- **What is in the text of a document** and in no fixed word is in a text of one of its elements. A
line feed is between any two lines, so that this says nothing about it. -/
theorem mem_render_iff (hc : c.IsForeign) (hfeed : c ≠ .scalar '\n') {document : List Element} :
    c ∈ render document ↔ ∃ e ∈ document, ∃ t ∈ e.texts, c ∈ t := by
  constructor
  · intro hmem
    refine Classical.byContradiction fun hnone => ?_
    simp only [not_exists, not_and] at hnone
    rcases Text.mem_join hmem with hseparator | ⟨l, hl, hcl⟩
    · exact hfeed (List.mem_singleton.1 hseparator)
    · obtain ⟨e, he, hl⟩ := List.mem_flatMap.1 hl
      exact Element.not_mem_lines hc (hnone e he) l hl hcl
  · rintro ⟨e, he, t, ht, hct⟩
    obtain ⟨l, hl, hcl⟩ := Element.mem_lines ht hct
    exact Text.mem_join_of_mem (List.mem_flatMap.2 ⟨e, he, hl⟩) hcl

/-- **The lines of the text of a document** are those of its elements, unless a text that is in it
holds a line feed. -/
theorem lines_render {document : List Element} (hne : lines document ≠ [])
    (h : ∀ e ∈ document, ∀ t ∈ e.texts, .scalar '\n' ∉ t) :
    Text.lines (render document) = lines document :=
  Text.splitOn_join hne fun _ hl => by
    obtain ⟨e, he, hl⟩ := List.mem_flatMap.1 hl
    exact Element.not_mem_lines (.inl rfl) (h e he) _ hl

end Zpl

end LabelPress
