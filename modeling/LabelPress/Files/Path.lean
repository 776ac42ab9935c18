import LabelPress.Text.Quoted
import LabelPress.Text.Utf8

/-!
# Paths

A path is a root and the names below it. Empty names and single dots say nothing and are dropped
when a text is read as a path; double dots stay, since what they lead to depends on the files.
-/

namespace LabelPress

/-- A path: what it starts from and the names after that. -/
structure Path where
  /-- One slash or two for an absolute path, nothing for one relative to the working folder. -/
  root : Text
  names : List Text
  deriving DecidableEq, Repr

namespace Path

/-- The path that a text writes. Exactly two slashes at the front stay two. -/
def ofText (t : Text) : Path :=
  let slashes := (t.takeWhile (· = .scalar '/')).length
  { root := if slashes = 0 then [] else if slashes = 2 then "//" else "/"
    names := (Text.splitOn '/' t).filter fun name => !name.isEmpty && name != Text.ofString "." }

/-- The text of a path; a path to the working folder is a dot. -/
def toText (p : Path) : Text :=
  if p.root.isEmpty ∧ p.names.isEmpty then "." else p.root ++ Text.join "/" p.names

/-- The last name of a path. -/
def name (p : Path) : Text := p.names.getLastD []

/-- The last name's part from its last point on, unless that point stands first or last. -/
def suffix (p : Path) : Text :=
  let after := p.name.reverse.takeWhile (· != .scalar '.')
  let before := p.name.length - after.length
  if after.isEmpty ∨ before ≤ 1 then [] else p.name.drop (before - 1)

example : (ofText "a//b/./c.tar.gz/").toText = Text.ofString "a/b/c.tar.gz" := by decide

example : (ofText "a/b.Json").suffix = Text.ofString ".Json" ∧ (ofText ".json").suffix = [] := by
  decide

/-! ## Names as bytes -/

/-- Whether a half stands for a single byte in a file name. -/
def isByteHalf (c : CodePoint) : Bool := 0xDC80 ≤ c.value && c.value < 0xDD00

/-- The first stretch of halves in a name that cannot be given as bytes. -/
def encodeProblem? (position : Nat) : Text → Option Utf8.EncodeProblem
  | [] => none
  | .scalar _ :: t => encodeProblem? (position + 1) t
  | .lone half :: t =>
    if isByteHalf (.lone half) then encodeProblem? (position + 1) t
    else some ⟨.lone half, position, 1 + (t.takeWhile fun c => !c.isScalar).length⟩

/-- The number of bytes of a name. -/
def byteLength (t : Text) : Nat :=
  t.foldl (fun n c => match c with
    | .scalar c => n + (Utf8.encodeChar c).length
    | .lone _ => n + 1) 0

end Path

end LabelPress
