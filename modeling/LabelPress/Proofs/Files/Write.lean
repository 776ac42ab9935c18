import LabelPress.Proofs.Files.Tree

/-!
# What a written file changes

A file that is written into a folder changes what stands under its own names and nothing else. A walk
over the tree with the file, beside the same walk over the tree without it, ends in the same way, or
comes to the file, or fails for the reason that the file is no folder, where it failed before because
there was nothing (`steps_put`).
-/

namespace LabelPress

namespace FileTree

variable {tree : FileTree} {bytes : Bytes} {target names folder : List Text} {name : Text}
  {spot : Spot} {path : Path}

/-! ## What stands under other names -/

theorem find?_put_of_ne (h : names ≠ target) :
    (put target bytes tree).find? (·.1 = names) = tree.find? (·.1 = names) := by
  induction tree with
  | nil => simp [put, Ne.symm h]
  | cons entry tree ih =>
    by_cases hentry : entry.1 = target
    · have hother : entry.1 ≠ names := fun heq => h (heq.symm.trans hentry)
      rw [put, if_pos hentry, List.find?_cons_of_neg (by simp [Ne.symm h]),
        List.find?_cons_of_neg (by simp [hother])]
    · rw [put, if_neg hentry, List.find?_cons, List.find?_cons, ih]

/-- The names in a tree are those from before and those of the file that was put there. -/
theorem any_put (p : List Text → Bool) :
    (put target bytes tree).any (fun entry => p entry.1) =
      (tree.any (fun entry => p entry.1) || p target) := by
  induction tree with
  | nil => simp [put]
  | cons entry tree ih =>
    by_cases hentry : entry.1 = target
    · rw [put, if_pos hentry, List.any_cons, List.any_cons, hentry]
      cases p target <;> simp
    · rw [put, if_neg hentry, List.any_cons, List.any_cons, ih, Bool.or_assoc]

/-- What leads to a folder is listed, or is on the way to what is. -/
theorem isPrefixOf_of_folder (h : tree.at? folder = some .folder) (hnames : names <+: folder) :
    names = [] ∨ tree.any (fun entry => names.isPrefixOf entry.1) = true := by
  unfold at? at h
  split at h
  · next found node hfind =>
    have hmem := List.mem_of_find?_eq_some hfind
    have heq : found = folder := by simpa using List.find?_some hfind
    refine .inr (List.any_eq_true.2 ⟨_, hmem, ?_⟩)
    rw [heq]
    exact List.isPrefixOf_iff_prefix.2 hnames
  · split at h
    next hlisted =>
      rcases hlisted with hempty | hany
      · obtain rfl := List.isEmpty_iff.1 hempty
        exact .inl (List.prefix_nil.1 hnames)
      · obtain ⟨entry, hmem, hprefix⟩ := List.any_eq_true.1 hany
        refine .inr (List.any_eq_true.2 ⟨entry, hmem, ?_⟩)
        exact List.isPrefixOf_iff_prefix.2 (hnames.trans (List.isPrefixOf_iff_prefix.1 hprefix))
    next => cases h

/-- **A file that is put into a folder changes nothing under other names.** -/
theorem at?_put_of_ne (hfolder : tree.at? folder = some .folder) (h : names ≠ folder ++ [name]) :
    (put (folder ++ [name]) bytes tree).at? names = tree.at? names := by
  have hany : (names.isEmpty ∨ (put (folder ++ [name]) bytes tree).any
        (fun entry => names.isPrefixOf entry.1) = true) ↔
      (names.isEmpty ∨ tree.any (fun entry => names.isPrefixOf entry.1) = true) := by
    rw [any_put (fun other => names.isPrefixOf other), Bool.or_eq_true]
    constructor
    · rintro (hempty | hlisted | hprefix)
      · exact .inl hempty
      · exact .inr hlisted
      · -- What is on the way to the file, and is not the file, is on the way to its folder.
        have hway : names <+: folder := by
          rcases List.prefix_concat_iff.1 (List.isPrefixOf_iff_prefix.1 hprefix) with heq | hway
          · exact absurd heq h
          · exact hway
        rcases isPrefixOf_of_folder hfolder hway with rfl | hlisted
        · exact .inl rfl
        · exact .inr hlisted
    · rintro (hempty | hlisted)
      · exact .inl hempty
      · exact .inr (.inl hlisted)
  unfold at?
  rw [find?_put_of_ne h]
  split
  · rfl
  · simp only [hany]

/-! ## Walks over a tree with one more file -/

/-- What a new file makes of the end of a walk. -/
inductive Alters (target : List Text) : (before after : Except Obstacle Spot) → Prop where
  /-- Nothing. -/
  | not (e : Except Obstacle Spot) : Alters target e e
  /-- The walk comes to the file, where there was nothing. -/
  | found : Alters target (.error .missing) (.ok (.inside target.reverse))
  /-- The walk would go on past the file, where there was nothing. -/
  | past : Alters target (.error .missing) (.error .notFolder)

section Put

variable (hfolder : tree.at? folder = some .folder)
  (hplace : tree.at? (folder ++ [name]) ≠ some .folder) (bytes : Bytes)

include hfolder hplace

/-- A new file is met by a step as what it is: no folder. -/
theorem at?_put_eq_folder_iff (names : List Text) :
    (put (folder ++ [name]) bytes tree).at? names = some .folder ↔
      tree.at? names = some .folder := by
  by_cases h : names = folder ++ [name]
  · rw [h, at?_put_self]
    exact ⟨nofun, fun h => absurd h hplace⟩
  · rw [at?_put_of_ne hfolder h]

theorem step_put (spot : Spot) (next : Text) :
    step (put (folder ++ [name]) bytes tree) spot next = step tree spot next ∨
      step (put (folder ++ [name]) bytes tree) spot next =
          .ok (.inside (folder ++ [name]).reverse) ∧
        step tree spot next = .error .missing := by
  cases spot with
  | outside => exact .inl rfl
  | inside names =>
    have hwhere := at?_put_eq_folder_iff hfolder hplace bytes names.reverse
    by_cases hnext : names.reverse ++ [next] = folder ++ [name]
    · have hfile : (put (folder ++ [name]) bytes tree).at? (names.reverse ++ [next]) =
          some (.file bytes) := hnext ▸ at?_put_self _ _ _
      have hspot : next :: names = (folder ++ [name]).reverse := by
        rw [← hnext, List.reverse_append, List.reverse_reverse, List.reverse_singleton,
          List.singleton_append]
      simp only [step, hwhere, hfile, ne_eq, Option.isNone_some, Bool.false_eq_true, if_false]
      cases hthere : tree.at? (names.reverse ++ [next]) with
      | some node => exact .inl rfl
      | none =>
        rw [hspot, Option.isNone_none, if_pos rfl]
        split
        · exact .inl rfl
        split
        · exact .inl rfl
        split
        · exact .inl rfl
        · exact .inr ⟨rfl, rfl⟩
    · have hthere : (put (folder ++ [name]) bytes tree).at? (names.reverse ++ [next]) =
          tree.at? (names.reverse ++ [next]) := at?_put_of_ne hfolder hnext
      simp only [step, hwhere, hthere, ne_eq, true_or]

/-- A walk that has come to the new file goes no further. -/
theorem step_past (next : Text) :
    step (put (folder ++ [name]) bytes tree) (.inside (folder ++ [name]).reverse) next =
      .error .notFolder := by
  have hnot : (put (folder ++ [name]) bytes tree).at? (folder ++ [name]) ≠ some .folder := fun h =>
    hplace ((at?_put_eq_folder_iff hfolder hplace bytes _).1 h)
  simp only [step, List.reverse_reverse]
  exact if_pos hnot

/-- **What a new file makes of a walk**, step after step. -/
theorem steps_put (spot : Spot) (names : List Text) :
    Alters (folder ++ [name]) (names.foldlM (step tree) spot)
      (names.foldlM (step (put (folder ++ [name]) bytes tree)) spot) := by
  induction names generalizing spot with
  | nil => exact .not _
  | cons next names ih =>
    rw [List.foldlM_cons, List.foldlM_cons]
    rcases step_put hfolder hplace bytes spot next with hsame | ⟨hfound, hmissing⟩
    · rw [hsame]
      cases step tree spot next with
      | error o => exact .not _
      | ok spot => exact ih spot
    · rw [hfound, hmissing]
      cases names with
      | nil => exact .found
      | cons past names =>
        change Alters _ (.error .missing) (do
          let spot ← step (put (folder ++ [name]) bytes tree) (.inside (folder ++ [name]).reverse) past
          names.foldlM (step (put (folder ++ [name]) bytes tree)) spot)
        rw [step_past hfolder hplace]
        exact .past

theorem walk_put (path : Path) :
    Alters (folder ++ [name]) (walk tree path) (walk (put (folder ++ [name]) bytes tree) path) := by
  unfold walk
  cases checkPath path with
  | error o => exact .not _
  | ok _ => exact steps_put hfolder hplace bytes (origin path) path.names

omit hplace in
/-- What stands at a spot is what stood there, the file itself apart. -/
theorem contents_put {spot : Spot} (h : spot ≠ .inside (folder ++ [name]).reverse) :
    contents (put (folder ++ [name]) bytes tree) spot = contents tree spot := by
  cases spot with
  | outside => rfl
  | inside names =>
    have hne : names.reverse ≠ folder ++ [name] := fun heq => h (by rw [← heq, List.reverse_reverse])
    simp only [contents, at?_put_of_ne hfolder hne]

/-- **A file elsewhere is read as before.** -/
theorem readBytes_put {path : Path} {spot : Spot}
    (hwalk : walk (put (folder ++ [name]) bytes tree) path = .ok spot)
    (h : spot ≠ .inside (folder ++ [name]).reverse) :
    readBytes (put (folder ++ [name]) bytes tree) path = readBytes tree path := by
  have hbefore : walk tree path = .ok spot := by
    have halters := walk_put hfolder hplace bytes path
    rw [hwalk] at halters
    generalize walk tree path = before at halters
    cases halters with
    | not => rfl
    | found => exact absurd rfl h
  rw [readBytes_eq, readBytes_eq, hwalk, hbefore]
  exact contents_put hfolder bytes h

end Put

/-! ## Reading back -/

/-- Where a file at a path is written: in a folder that the path comes to with its last name left off,
under that name, which is no folder. -/
structure IsPlace (tree : FileTree) (path : Path) (folder : List Text) (name : Text) : Prop where
  givable : checkPath path = .ok ()
  last : path.names.getLast? = some name
  steps : path.names.dropLast.foldlM (step tree) (origin path) = .ok (.inside folder.reverse)
  at_folder : tree.at? folder = some .folder
  short : ¬ maxName < Path.byteLength name
  notUp : name ≠ Text.ofString ".."
  at_place : tree.at? (folder ++ [name]) ≠ some .folder

theorem isPlace_of_writeNames {names : List Text} (h : writeNames tree path = .ok names) :
    ∃ folder name, names = folder ++ [name] ∧ IsPlace tree path folder name := by
  unfold writeNames at h
  obtain ⟨⟨⟩, hcheck, h⟩ := bind_eq_ok_iff.1 h
  split at h
  · cases h
  · next name hlast =>
    obtain ⟨spot, hsteps, h⟩ := bind_eq_ok_iff.1 h
    split at h
    · cases h
    · next below =>
      split at h
      · cases h
      next hfolder =>
      split at h
      · cases h
      next hshort =>
      split at h
      · cases h
      next hup =>
      dsimp only at h
      split at h
      · cases h
      next hplace =>
      cases h
      refine ⟨below.reverse, name, rfl, hcheck, hlast, ?_, Decidable.not_not.1 hfolder, hshort, hup,
        hplace⟩
      rw [List.reverse_reverse]
      exact hsteps

/-- The path that a file was written to leads to it. -/
theorem walk_put_self (h : IsPlace tree path folder name) (bytes : Bytes) :
    walk (put (folder ++ [name]) bytes tree) path = .ok (.inside (folder ++ [name]).reverse) := by
  have hnames : path.names = path.names.dropLast ++ [name] := by
    obtain ⟨init, hinit⟩ := List.getLast?_eq_some_iff.1 h.last
    rw [hinit, List.dropLast_concat]
  have hsteps : path.names.dropLast.foldlM (step (put (folder ++ [name]) bytes tree)) (origin path) =
      .ok (.inside folder.reverse) := by
    have halters := steps_put h.at_folder h.at_place bytes (origin path) path.names.dropLast
    rw [h.steps] at halters
    generalize path.names.dropLast.foldlM (step (put (folder ++ [name]) bytes tree)) (origin path) =
      after at halters ⊢
    cases halters
    rfl
  have hlast : step (put (folder ++ [name]) bytes tree) (.inside folder.reverse) name =
      .ok (.inside (name :: folder.reverse)) := by
    have hfolder : (put (folder ++ [name]) bytes tree).at? folder = some .folder :=
      (at?_put_eq_folder_iff h.at_folder h.at_place bytes folder).2 h.at_folder
    simp only [step, List.reverse_reverse, hfolder, at?_put_self, ne_eq, not_true, if_false,
      if_neg h.short, if_neg h.notUp, Option.isNone_some, Bool.false_eq_true]
  unfold walk
  rw [h.givable, hnames, List.foldlM_append, List.reverse_append]
  refine bind_eq_ok_iff.2 ⟨(), rfl, bind_eq_ok_iff.2 ⟨_, hsteps, ?_⟩⟩
  rw [List.foldlM_cons, hlast]
  rfl

/-- **What was written is read back**, from the path that it was written to. -/
theorem readBytes_put_self (h : IsPlace tree path folder name) (bytes : Bytes) :
    readBytes (put (folder ++ [name]) bytes tree) path = .ok bytes := by
  rw [readBytes_eq, walk_put_self h]
  change contents _ (.inside (folder ++ [name]).reverse) = _
  simp only [contents, List.reverse_reverse, at?_put_self]

/-- **What a text that was written leaves behind**: a file in its place with its bytes. -/
theorem writeText_eq_ok {text : Text} (h : (tree.writeText path text).1 = .ok ()) :
    ∃ folder name bytes, IsPlace tree path folder name ∧ Utf8.encode text = .ok bytes ∧
      (tree.writeText path text).2 = tree.put (folder ++ [name]) bytes := by
  unfold writeText at h ⊢
  cases hnames : tree.writeNames path with
  | error o => rw [hnames] at h; cases h
  | ok names =>
    obtain ⟨folder, name, rfl, hplace⟩ := isPlace_of_writeNames hnames
    cases hbytes : Utf8.encode text with
    | error p => rw [hnames, hbytes] at h; cases h
    | ok bytes => exact ⟨folder, name, bytes, hplace, rfl, rfl⟩

end FileTree

end LabelPress
