import LabelPress.Label.Description
import LabelPress.Proofs.Files.Tree
import LabelPress.Proofs.Json.LineEnds
import LabelPress.Proofs.Text.Utf8

/-!
# Sources of one description

A description can be given as a data text, as a file with the bytes of that text, or as the table that
the text holds, and it makes no difference in which of these ways. A file is read with line feeds for
all line ends and a text as it is, but a data text that has line ends has them between its tokens only.
And a text that is a data text is never taken for the path of a file.
-/

namespace LabelPress

namespace Description

variable {tree : FileTree} {path : Path} {t : Text} {bytes : Bytes}

/-- A data text is not taken for a path. -/
theorem sourceValue_text (h : Json.IsWellFormed t) : sourceValue tree (.text t) = parse t := by
  rw [sourceValue, parse]
  rcases hread : Json.read t with (⟨complaint, place⟩ | digits) | v
  · exact absurd hread (h complaint place)
  · rfl
  · rfl

/-- Line ends are of no account in a data text. -/
theorem parse_foldNewlines (h : Json.IsWellFormed t) : parse t.foldNewlines = parse t := by
  rw [parse, h.read_foldNewlines_eq, parse]
  rcases hread : Json.read t with (⟨complaint, place⟩ | digits) | v
  · exact absurd hread (h complaint place)
  · rfl
  · rfl

/-- A file with the bytes of a text is read as that text, but for its line ends. -/
theorem parseFile_of_encode (hbytes : Utf8.encode t = .ok bytes)
    (hfile : tree.readBytes path = .ok bytes) : parseFile tree path = parse t.foldNewlines := by
  rw [parseFile, FileTree.readText, hfile]
  dsimp only
  rw [Utf8.decode_of_encode hbytes]

end Description

end LabelPress
