import LabelPress.Arguments.Reader
import LabelPress.Proofs.Action
import LabelPress.Proofs.Json.Reader

/-!
# What options are given

Whatever an option of a command line is given can be shown in a message. Of what an argument may stand
for, only whole numbers could be too long for that, and too long a one is refused when it is read.
-/

namespace LabelPress

namespace Arguments

variable {rules : List Rule} {expectCommand : Bool} {words : List Text} {found : Found}

/-- A whole number that an argument stands for is short enough to be written. -/
theorem fits_of_int? {t : Text} {n : Int} (h : int? t = some n) : Digits.fits n = true := by
  unfold int? at h
  dsimp only at h
  split at h
  · cases h
  · next hshort =>
    obtain rfl := Option.some.inj h
    simp only [not_or, Nat.not_lt] at hshort
    exact Digits.fits_of_length_le hshort.2.2 _

theorem isShowable_of_read {r : Rule} {t : Text} {v : Value} (h : r.read t = .ok v) :
    v.isShowable = true := by
  unfold Rule.read at h
  split at h
  · obtain rfl := Except.ok.inj h
    rfl
  · split at h
    · cases hn : int? t with
      | none => simp [hn] at h
      | some n =>
        obtain rfl : Value.int n = v := by simpa [hn] using h
        exact fits_of_int? hn
    · cases hx : float? t with
      | none => simp [hx] at h
      | some x =>
        obtain rfl : Value.float x = v := by simpa [hx] using h
        rfl
    · split at h
      · obtain rfl := Except.ok.inj h
        rfl
      · cases h
    · obtain rfl := Except.ok.inj h
      rfl

theorem isShowable_of_readAlone {r : Rule} {name : Text} {attached : Option Text} {v : Value}
    (h : r.readAlone name attached = .ok v) : v.isShowable = true := by
  unfold Rule.readAlone at h
  dsimp only at h
  split at h
  · cases h
  · cases h
  · obtain rfl := Except.ok.inj h
    rfl

/-- Whether everything that options were given can be shown. -/
def Found.IsShowable (found : Found) : Prop := ∀ p ∈ found.given, p.2.isShowable = true

theorem isShowable_of_leave {x : Except Halt Found} {word : Text}
    (hx : ∀ f, x = .ok f → f.IsShowable) (h : x.map (.leave word) = .ok found) :
    found.IsShowable := by
  cases x with
  | error e => cases h
  | ok f =>
    obtain rfl := Except.ok.inj h
    exact hx f rfl

theorem isShowable_of_give {x : Except Halt Found} {rule : Rule} {v : Value}
    (hv : v.isShowable = true) (hx : ∀ f, x = .ok f → f.IsShowable)
    (h : x.map (.give rule v) = .ok found) : found.IsShowable := by
  cases x with
  | error e => cases h
  | ok f =>
    obtain rfl := Except.ok.inj h
    exact List.forall_mem_cons.2 ⟨hv, hx f rfl⟩

/-- Going through a command line gives options nothing but what they read. -/
theorem isShowable_of_gather {recognised : List (Text × Word)}
    (h : gather expectCommand recognised = .ok found) : found.IsShowable := by
  have hempty (command : List Text) : ({ command } : Found).IsShowable := List.forall_mem_nil _
  -- By the cases of the pass: words are left over, and options given what they have read.
  fun_induction gather expectCommand recognised generalizing found with
  | case1 =>
    obtain rfl := Except.ok.inj h
    exact hempty []
  | case2 word words =>
    obtain rfl := Except.ok.inj h
    exact hempty _
  | case3 word words _ ih => exact isShowable_of_leave (fun f hf => ih hf) h
  | case4 word words =>
    obtain rfl := Except.ok.inj h
    exact hempty _
  | case5 word words _ ih => exact isShowable_of_leave (fun f hf => ih hf) h
  | case6 word words ih => exact isShowable_of_leave (fun f hf => ih hf) h
  | case7 words word rule name attached _ ih =>
    obtain ⟨v, hv, h⟩ := bind_eq_ok_iff.1 h
    exact isShowable_of_give (isShowable_of_readAlone hv) (fun f hf => ih hf) h
  | case8 word rule name _ t words ih =>
    obtain ⟨v, hv, h⟩ := bind_eq_ok_iff.1 h
    exact isShowable_of_give (isShowable_of_read (mapError_eq_ok_iff.1 hv)) (fun f hf => ih hf) h
  | case9 word rule name _ t words ih =>
    obtain ⟨v, hv, h⟩ := bind_eq_ok_iff.1 h
    exact isShowable_of_give (isShowable_of_read (mapError_eq_ok_iff.1 hv)) (fun f hf => ih hf) h
  | case10 => cases h

/-- **Whatever the options of a command line were given can be shown.** -/
theorem isShowable_of_read_eq_ok (h : Arguments.read rules expectCommand words = .ok found) :
    found.IsShowable := by
  unfold Arguments.read at h
  obtain ⟨recognised, -, h⟩ := bind_eq_ok_iff.1 h
  obtain ⟨gathered, hgathered, h⟩ := bind_eq_ok_iff.1 h
  split at h
  · obtain rfl := Except.ok.inj h
    exact isShowable_of_gather hgathered
  · cases h

end Arguments

end LabelPress
