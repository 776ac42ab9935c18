import LabelPress.Files.Tree
import LabelPress.Proofs.Action

/-!
# Obstacles on the way to a file

All obstacles are met by the operating system on the way, but for those that keep a path from being
given to it in the first place. These do not depend on the files at all.
-/

namespace LabelPress

namespace FileTree

variable {tree : FileTree} {path : Path} {o : Obstacle} {spot : Spot} {name : Text}
  {names : List Text} {bytes : Bytes}

/-- Whether an obstacle is met by the operating system. The others keep a path from being given to
it. -/
def Obstacle.isOs : Obstacle → Bool
  | .nul | .unencodable _ => false
  | .missing | .notFolder | .isFolder | .nameTooLong => true

theorem Obstacle.fault_isOs (path : Path) (o : Obstacle) : (o.fault path).isOs = o.isOs := by
  cases o <;> rfl

theorem isOs_of_step (h : step tree spot name = .error o) : o.isOs = true := by
  cases spot with
  | outside =>
    simp only [step] at h
    split at h
    · cases h
    · cases h
      rfl
  | inside names =>
    simp only [step] at h
    repeat' split at h
    all_goals cases h <;> rfl

theorem isOs_of_steps (h : names.foldlM (step tree) spot = .error o) : o.isOs = true := by
  induction names generalizing spot with
  | nil => cases h
  | cons name names ih =>
    rw [List.foldlM_cons] at h
    cases hstep : step tree spot name with
    | error p =>
      rw [hstep] at h
      cases h
      exact isOs_of_step hstep
    | ok next =>
      rw [hstep] at h
      exact ih h

/-- The bytes of what stands where a walk has come to. -/
def contents (tree : FileTree) : Spot → Except Obstacle Bytes
  | .outside => .error .isFolder
  | .inside names =>
    match tree.at? names.reverse with
    | some (.file bytes) => .ok bytes
    | some .folder => .error .isFolder
    | none => .error .missing

theorem readBytes_eq (tree : FileTree) (path : Path) :
    readBytes tree path = walk tree path >>= contents tree := rfl

/-- A file is read as text in two steps, of which each has faults of its own. -/
theorem readText_eq (tree : FileTree) (path : Path) :
    readText tree path = do
      let bytes ← (readBytes tree path).mapError (Obstacle.fault path)
      let document ← (Utf8.decode bytes).mapError Fault.ofDecode
      return document.foldNewlines := by
  unfold readText
  cases readBytes tree path with
  | error o => rfl
  | ok bytes =>
    dsimp only
    change _ = (Utf8.decode bytes).mapError Fault.ofDecode >>= fun document =>
      pure document.foldNewlines
    cases Utf8.decode bytes <;> rfl

theorem isOs_of_contents (h : contents tree spot = .error o) : o.isOs = true := by
  unfold contents at h
  repeat' split at h
  all_goals cases h <;> rfl

/-- **An obstacle that the operating system does not meet** is one of the path itself. -/
theorem readBytes_eq_error_iff (ho : o.isOs = false) :
    readBytes tree path = .error o ↔ checkPath path = .error o := by
  have hos : ¬ o.isOs = true := by simp [ho]
  rw [readBytes_eq, walk, bind_eq_error_iff, bind_eq_error_iff]
  constructor
  · rintro ((hcheck | ⟨-, -, hsteps⟩) | ⟨spot, -, hcontents⟩)
    · exact hcheck
    · exact absurd (isOs_of_steps hsteps) hos
    · exact absurd (isOs_of_contents hcontents) hos
  · exact fun hcheck => .inl (.inl hcheck)

/-- Whether a path can be given to the operating system. -/
structure IsGivable (path : Path) : Prop where
  encodable : Path.encodeProblem? 0 path.toText = none
  noNul : path.toText.has '\x00' = false

/-- **A path has no obstacle of its own exactly if it can be given to the operating system.** -/
theorem isOs_of_readBytes_iff :
    (∀ o, readBytes tree path = .error o → o.isOs = true) ↔ IsGivable path := by
  constructor
  · intro h
    have hcheck (o : Obstacle) (ho : o.isOs = false) : checkPath path ≠ .error o := fun hc => by
      have := h o ((readBytes_eq_error_iff ho).2 hc)
      rw [ho] at this
      cases this
    unfold checkPath at hcheck
    split at hcheck
    · next p _ => exact absurd rfl (hcheck (.unencodable p) rfl)
    · next hencode =>
      refine ⟨hencode, Bool.eq_false_iff.2 fun hnul => ?_⟩
      rw [if_pos hnul] at hcheck
      exact hcheck .nul rfl rfl
  · rintro ⟨hencode, hnul⟩ o ho
    cases hos : o.isOs with
    | true => rfl
    | false =>
      rw [readBytes_eq_error_iff hos] at ho
      simp only [checkPath, hencode, hnul] at ho
      split at ho
      · contradiction
      · split at ho
        · cases ho
          cases hos
        · cases ho

end FileTree

end LabelPress
