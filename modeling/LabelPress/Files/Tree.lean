import LabelPress.Fault.Basic
import LabelPress.Files.Path

/-!
# Files in a working folder

The files that a program finds, as a value: each file or folder under the names that lead to it.
A folder is there if it is listed or if something is listed below it. Looking a path up walks its
names one by one, as an operating system does, and fails with the fault that it would give.
-/

namespace LabelPress

/-- What a path can lead to. -/
inductive Node where
  | file (bytes : Bytes)
  | folder
  deriving DecidableEq, Repr

/-- The files and folders below a working folder, each under its names from there. -/
abbrev FileTree := List (List Text × Node)

namespace FileTree

/-- What stands under some names. -/
def at? (tree : FileTree) (names : List Text) : Option Node :=
  match tree.find? (·.1 = names) with
  | some (_, node) => some node
  | none =>
    if names.isEmpty ∨ tree.any (fun entry => names.isPrefixOf entry.1) then some .folder else none

/-- The same tree with a file under some names. -/
def put (names : List Text) (bytes : Bytes) : FileTree → FileTree
  | [] => [(names, .file bytes)]
  | entry :: tree =>
    if entry.1 = names then (names, .file bytes) :: tree else entry :: put names bytes tree

/-- A file put under some names is there. -/
theorem at?_put_self (names : List Text) (bytes : Bytes) (tree : FileTree) :
    (tree.put names bytes).at? names = some (.file bytes) := by
  have h : (tree.put names bytes).find? (·.1 = names) = some (names, .file bytes) := by
    induction tree with
    | nil => simp [put]
    | cons entry tree ih =>
      by_cases h : entry.1 = names
      · simp [put, h]
      · simpa [put, h] using ih
  simp [at?, h]

/-- Why a path leads to no file. -/
inductive Obstacle where
  | missing
  | notFolder
  | isFolder
  | nameTooLong
  /-- The path holds a NUL. -/
  | nul
  /-- The path cannot be given as bytes. -/
  | unencodable (p : Utf8.EncodeProblem)
  deriving DecidableEq, Repr

/-- The fault that an obstacle on a path raises. -/
def Obstacle.fault (path : Path) : Obstacle → Fault
  | .missing => .ofFile 2 "No such file or directory" path.toText
  | .notFolder => .ofFile 20 "Not a directory" path.toText
  | .isFolder => .ofFile 21 "Is a directory" path.toText
  | .nameTooLong => .ofFile 36 "File name too long" path.toText
  | .nul => ⟨.value, "embedded null byte"⟩
  | .unencodable p => .ofEncode p

/-- Where a walk has come to: below the working folder under some names, the last one first, or
outside, where only folders above it are known. -/
inductive Spot where
  | inside (names : List Text)
  | outside
  deriving DecidableEq, Repr

/-- The longest name, in bytes. -/
def maxName : Nat := 255

/-- The longest path, in bytes. -/
def maxPath : Nat := 4095

/-- One step of a walk from a folder. -/
def step (tree : FileTree) : Spot → Text → Except Obstacle Spot
  | .outside, name => if name = Text.ofString ".." then .ok .outside else .error .missing
  | .inside names, name =>
    if tree.at? names.reverse ≠ some .folder then .error .notFolder
    else if maxName < Path.byteLength name then .error .nameTooLong
    else if name = Text.ofString ".." then
      .ok (match names with
        | [] => .outside
        | _ :: names => .inside names)
    else if (tree.at? (names.reverse ++ [name])).isNone then .error .missing
    else .ok (.inside (name :: names))

/-- Whether a path can be given to the operating system at all. -/
def checkPath (path : Path) : Except Obstacle Unit :=
  match Path.encodeProblem? 0 path.toText with
  | some p => .error (.unencodable p)
  | none =>
    if path.toText.has '\x00' then .error .nul
    else if maxPath < Path.byteLength path.toText then .error .nameTooLong
    else .ok ()

/-- Where a walk along a path starts. -/
def origin (path : Path) : Spot := if path.root.isEmpty then .inside [] else .outside

/-- Walks along all names of a path. -/
def walk (tree : FileTree) (path : Path) : Except Obstacle Spot := do
  checkPath path
  path.names.foldlM (step tree) (origin path)

/-- Whether a path leads to anything. -/
def leadsTo (tree : FileTree) (path : Path) : Except Obstacle Unit := do
  discard <| walk tree path

/-- The bytes of the file at a path. -/
def readBytes (tree : FileTree) (path : Path) : Except Obstacle Bytes := do
  match ← walk tree path with
  | .outside => .error .isFolder
  | .inside names =>
    match tree.at? names.reverse with
    | some (.file bytes) => .ok bytes
    | some .folder => .error .isFolder
    | none => .error .missing

/-- The names under which a file at a path can be written: its folder has to be there, and no
folder may be in its place. -/
def writeNames (tree : FileTree) (path : Path) : Except Obstacle (List Text) := do
  checkPath path
  match path.names.getLast? with
  | none => .error .isFolder
  | some name =>
    match ← path.names.dropLast.foldlM (step tree) (origin path) with
    | .outside => .error (if name = Text.ofString ".." then .isFolder else .missing)
    | .inside names =>
      if tree.at? names.reverse ≠ some .folder then .error .notFolder
      else if maxName < Path.byteLength name then .error .nameTooLong
      else if name = Text.ofString ".." then .error .isFolder
      else
        let names := names.reverse ++ [name]
        if tree.at? names = some .folder then .error .isFolder else .ok names

/-- The text of the file at a path, with line feeds for all line ends. -/
def readText (tree : FileTree) (path : Path) : Except Fault Text :=
  match readBytes tree path with
  | .error obstacle => .error (obstacle.fault path)
  | .ok bytes =>
    match Utf8.decode bytes with
    | .error p => .error (.ofDecode p)
    | .ok text => .ok text.foldNewlines

/-- Writes a text to the file at a path. The file is emptied before the text is encoded, so a text
that has no bytes leaves an empty file behind. -/
def writeText (tree : FileTree) (path : Path) (text : Text) : Except Fault Unit × FileTree :=
  match writeNames tree path with
  | .error obstacle => (.error (obstacle.fault path), tree)
  | .ok names =>
    match Utf8.encode text with
    | .error p => (.error (.ofEncode p), tree.put names [])
    | .ok bytes => (.ok (), tree.put names bytes)

end FileTree

end LabelPress
