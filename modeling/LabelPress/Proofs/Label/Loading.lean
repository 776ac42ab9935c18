import LabelPress.Proofs.Files.Tree
import LabelPress.Proofs.Json.Reader
import LabelPress.Proofs.Label.Description

/-!
# Faults of loading a description

A description is refused by a fault of one kind, with the reason in its wording. Three things stand in
the way of that: a path that can not be given to the operating system, bytes that are no text, and a
whole number with more digits than are read. A source that is free of them is `IsTextual`, and these
are exactly the sources of which no other fault comes. Past the reading there is no such thing, since
the schema is never at a loss for words about what a data text holds.
-/

namespace LabelPress

namespace Description

section Refusals

variable {α β : Type} {x : Except Fault α} {f : α → Except Fault β}

/-- Whether a result can only be wrong by refusing a description. -/
def OnlyRefuses (x : Except Fault α) : Prop := ∀ f, x = .error f → f.kind = .labelData

theorem onlyRefuses_error {f : Fault} :
    OnlyRefuses (.error f : Except Fault α) ↔ f.kind = .labelData := OnlyRaises.error_iff

theorem onlyRefuses_ok {a : α} : OnlyRefuses (.ok a : Except Fault α) := OnlyRaises.ok

/-- Two steps only refuse if the first does, when the second never does anything else. -/
theorem onlyRefuses_bind (hf : ∀ a, x = .ok a → OnlyRefuses (f a)) :
    OnlyRefuses (x >>= f) ↔ OnlyRefuses x :=
  OnlyRaises.bind_iff.trans (and_iff_left hf)

end Refusals

/-! ## Sources that are text -/

/-- Whether the reading of a data text does not come to a whole number with too many digits. -/
def HasShortNumbers (document : Text) : Prop := ∀ digits, Json.read document ≠ .error (.longInt digits)

/-- Whether there is text at a path, if there is anything: the path can be given to the operating
system, and the bytes of a file there are a text with short numbers. -/
structure HoldsText (tree : FileTree) (path : Path) : Prop where
  givable : FileTree.IsGivable path
  decodes : ∀ bytes, tree.readBytes path = .ok bytes →
    ∃ document, Utf8.decode bytes = .ok document ∧ HasShortNumbers document.foldNewlines

/-- Whether a source is text all through: a text with short numbers, which leads to such a text if it
is no data text itself, or a path that leads to one. -/
def Source.IsTextual (tree : FileTree) : Source → Prop
  | .text t => HasShortNumbers t ∧
    ∀ c place, Json.read t = .error (.malformed c place) → HoldsText tree (.ofText t)
  | .path p => HoldsText tree p
  | .value _ => True

variable {tree : FileTree} {path : Path} {document : Text}

/-! ## What reading refuses -/

theorem onlyRefuses_parse_iff : OnlyRefuses (parse document) ↔ HasShortNumbers document := by
  unfold parse HasShortNumbers
  rcases Json.read document with (⟨c, place⟩ | digits) | v <;> dsimp only
  · exact ⟨fun _ _ => nofun, fun _ => onlyRefuses_error.2 rfl⟩
  · exact ⟨fun h => absurd (onlyRefuses_error.1 h) nofun, fun h => absurd rfl (h digits)⟩
  · exact ⟨fun _ _ => nofun, fun _ => onlyRefuses_ok⟩

/-- **A file is refused, if it is wrong, exactly where there is text or nothing at its path.** -/
theorem onlyRefuses_parseFile_iff :
    OnlyRefuses (parseFile tree path) ↔ HoldsText tree path := by
  have hgivable (h : ∀ o, tree.readBytes path = .error o → o.isOs = true) :
      FileTree.IsGivable path := FileTree.isOs_of_readBytes_iff.1 h
  unfold parseFile FileTree.readText
  cases hbytes : tree.readBytes path with
  | error o =>
    dsimp only
    rw [onlyRefuses_error, FileTree.Obstacle.fault_isOs]
    cases ho : o.isOs with
    | true =>
      refine ⟨fun _ => ⟨hgivable fun p hp => ?_, fun bytes h => ?_⟩, fun _ => rfl⟩
      · rw [hbytes] at hp
        exact Except.error.inj hp ▸ ho
      · rw [hbytes] at h
        cases h
    | false =>
      refine ⟨fun hkind => ?_, fun h => ?_⟩
      · cases o <;> cases ho <;> cases hkind
      · have := FileTree.isOs_of_readBytes_iff.2 h.givable o hbytes
        rw [ho] at this
        cases this
  | ok bytes =>
    have hpath : FileTree.IsGivable path := hgivable fun o ho => by
      rw [hbytes] at ho
      cases ho
    dsimp only
    cases hdecode : Utf8.decode bytes with
    | error p =>
      dsimp only
      refine ⟨fun h => absurd (onlyRefuses_error.1 h) nofun, fun h => ?_⟩
      obtain ⟨document, hdocument, -⟩ := h.decodes bytes hbytes
      rw [hdecode] at hdocument
      cases hdocument
    | ok document =>
      dsimp only
      refine onlyRefuses_parse_iff.trans ⟨fun hshort => ⟨hpath, fun bytes' h => ?_⟩, fun h => ?_⟩
      · rw [hbytes] at h
        cases h
        exact ⟨document, hdecode, hshort⟩
      · obtain ⟨document', hdocument, hshort⟩ := h.decodes bytes hbytes
        rw [hdecode] at hdocument
        cases hdocument
        exact hshort

theorem onlyRefuses_sourceValue_iff {source : Source} (hsource : ∀ v, source ≠ .value v) :
    OnlyRefuses (sourceValue tree source) ↔ source.IsTextual tree := by
  cases source with
  | value v => exact absurd rfl (hsource v)
  | path p => exact onlyRefuses_parseFile_iff
  | text t =>
    unfold sourceValue Source.IsTextual HasShortNumbers
    dsimp only
    rcases Json.read t with (⟨c, place⟩ | digits) | v <;> dsimp only
    · exact onlyRefuses_parseFile_iff.trans ⟨fun h => ⟨fun _ => nofun, fun _ _ _ => h⟩,
        fun h => h.2 c place rfl⟩
    · exact ⟨fun h => absurd (onlyRefuses_error.1 h) nofun, fun h => absurd rfl (h.1 digits)⟩
    · exact ⟨fun _ => ⟨fun _ => nofun, fun _ _ => nofun⟩, fun _ => onlyRefuses_ok⟩

/-! ## What is read can be told of -/

theorem isShowable_of_parse {v : Value} (h : parse document = .ok v) : v.isShowable = true := by
  unfold parse at h
  split at h
  · next hread =>
    cases h
    exact Json.isShowable_of_read hread
  · cases h
  · cases h

theorem isShowable_of_parseFile {v : Value} (h : parseFile tree path = .ok v) :
    v.isShowable = true := by
  unfold parseFile at h
  split at h
  · exact isShowable_of_parse h
  · cases h

theorem isShowable_of_sourceValue {source : Source} {v : Value} (hsource : ∀ w, source ≠ .value w)
    (h : sourceValue tree source = .ok v) : v.isShowable = true := by
  cases source with
  | value w => exact absurd rfl (hsource w)
  | path p => exact isShowable_of_parseFile h
  | text t =>
    simp only [sourceValue] at h
    split at h
    · next hread =>
      cases h
      exact Json.isShowable_of_read hread
    · exact isShowable_of_parseFile h
    · cases h

/-- **The sources from which nothing but a label or a refusal comes** are those that are text all
through. -/
theorem onlyRefuses_load_iff {source : Source} (hsource : ∀ v, source ≠ .value v) :
    OnlyRefuses (load tree source) ↔ source.IsTextual tree := by
  rw [← onlyRefuses_sourceValue_iff hsource, load]
  refine onlyRefuses_bind fun v hv f hf => ?_
  rcases ofValue_eq_error hf with hkind | ⟨-, hshow⟩
  · exact hkind
  · rw [isShowable_of_sourceValue hsource hv] at hshow
    cases hshow

end Description

end LabelPress
