import LabelPress.Proofs.Program.Detour

/-!
# Runs and the files that they change

A run changes a file only to write a document into it (`Writes`), and of its failures one alone comes
after the first change: the file is emptied before the document is encoded, and a document may have no
bytes. A run that spoils a file so leaves it empty, and if there was none, there is one now
(`Spoils`). Every other run that fails has left the files alone.
-/

namespace LabelPress

namespace Program

variable {scene : Scene} {tree : FileTree} {words : List Text} {path : Path} {document : Text}
  {place : List Text}

/-! ## Runs that write -/

/-- A run comes to write a document to a path: the document of the label that it is to compile, where
the output is named. -/
inductive Writes (scene : Scene) (tree : FileTree) (words : List Text) : Path → Text → Prop where
  | mk {job : Job} {s : Settings} {logs : Log.Setup} {label : Value} {output document : Text}
      (starts : Starts tree words job s logs)
      (task : job.task = .compile label (.text output))
      (named : output ≠ [])
      (compiled : documentOf scene.now tree label = .ok document) :
      Writes scene tree words (.ofText output) document

/-- What such a run comes to is what writing comes to. -/
theorem run_of_writes (h : Writes scene tree words path document) :
    (run scene words tree).result = (tree.writeText path document).1.map (fun _ => 0) ∧
      (run scene words tree).state = (tree.writeText path document).2 := by
  cases h with
  | mk starts task named compiled =>
    rw [run_of_starts starts, task, carryOut_compile compiled]
    exact publish_text named

section Tasks

variable {logs : Log.Setup} {s : Settings}

/-- A document that is not written to a path is shown, which leaves the files alone. -/
theorem state_publish {output : Value} (h : ∀ t, output = .text t → t = []) :
    (publish scene logs output document tree).state = tree := by
  have hsay : (do say document; return 0 : Doing Nat).IsSteady :=
    (isSteady_say document).bind fun _ => .pure 0
  unfold publish
  split
  · next c t => exact absurd (h (c :: t) rfl) (List.cons_ne_nil c t)
  · exact hsay.state_eq tree

/-- A task leaves the files alone if it does not come to write. -/
theorem state_carryOut {task : Task}
    (h : ∀ label output document, task = .compile label (.text output) → output ≠ [] →
      documentOf scene.now tree label ≠ .ok document) :
    (task.carryOut scene logs s tree).state = tree := by
  cases task with
  | compile label output =>
    cases hdocument : documentOf scene.now tree label with
    | error f =>
      simp only [Task.carryOut, Action.bind_apply, Action.get_apply, hdocument]
      exact (isSteady_refuse .labelData f).state_eq tree
    | ok document =>
      rw [carryOut_compile hdocument]
      refine state_publish fun t ht => Decidable.byContradiction fun hne => ?_
      exact h label t document (congrArg _ ht) hne hdocument
  | send zpl printer =>
    cases hpath : readPath zpl with
    | error f => simp only [Task.carryOut, Action.bind_apply, Action.ofExcept_apply, hpath]
    | ok path =>
      simp only [Task.carryOut, Action.bind_apply, Action.ofExcept_apply, Action.get_apply, hpath]
      cases (tree.readBytes path).mapError (FileTree.Obstacle.fault path) with
      | error f =>
        dsimp only
        split
        · rfl
        · rfl
      | ok bytes => exact (isSteady_transmit scene logs (printer.plan s) bytes).state_eq tree
  | print label printer =>
    cases hdocument : documentOf scene.now tree label with
    | error f =>
      simp only [Task.carryOut, Action.bind_apply, Action.get_apply, hdocument]
      exact (isSteady_refuse .labelData f).state_eq tree
    | ok document =>
      simp only [Task.carryOut, Action.bind_apply, Action.ofExcept_apply, Action.get_apply,
        hdocument]
      cases (Utf8.encode document).mapError Fault.ofEncode with
      | error f => rfl
      | ok bytes => exact (isSteady_transmit scene logs (printer.plan s) bytes).state_eq tree

end Tasks

/-- **A run that does not come to write leaves the files alone**, however it ends. -/
theorem state_run (h : ∀ path document, ¬ Writes scene tree words path document) :
    (run scene words tree).state = tree := by
  cases hread : Job.read words with
  | error ending =>
    simp only [run, hread]
    cases ending with
    | help program rules =>
      have hhelp : (Ending.carryOut (.help program rules)).IsSteady :=
        (isSteady_say _).bind fun _ => .pure 0
      exact hhelp.state_eq tree
    | complaint program why => rfl
  | ok job =>
    rw [run_eq hread]
    cases hsettings : job.settings tree with
    | error f => exact (isSteady_refuse .config f).state_eq tree
    | ok s =>
      cases hlogs : job.logSetup s with
      | error f => simp only [hlogs]
      | ok logs =>
        simp only [hlogs]
        refine state_carryOut fun label output document htask hnamed hdocument => ?_
        exact h _ _ (.mk ⟨hread, hsettings, hlogs⟩ htask hnamed hdocument)

/-! ## Runs that fail -/

/-- A run spoils the file in a place: that is where it comes to write a document without bytes. -/
def Spoils (scene : Scene) (tree : FileTree) (words : List Text) (place : List Text) : Prop :=
  ∃ path document, Writes scene tree words path document ∧ ¬ document.IsEncodable ∧
    tree.writeNames path = .ok place

/-- It leaves an empty file there, whatever there was before. -/
theorem state_of_spoils (h : Spoils scene tree words place) :
    (run scene words tree).state = tree.put place [] := by
  obtain ⟨path, document, hwrites, hnone, hplace⟩ := h
  obtain ⟨-, hstate⟩ := run_of_writes hwrites
  rw [hstate]
  cases hbytes : Utf8.encode document with
  | ok bytes => exact absurd (Utf8.exists_encode_iff.1 ⟨bytes, hbytes⟩) hnone
  | error p => simp only [FileTree.writeText, hplace, hbytes]

/-- **No other run that fails changes a file.** -/
theorem state_of_failed (hfailed : (run scene words tree).result ≠ .ok 0)
    (h : ∀ place, ¬ Spoils scene tree words place) : (run scene words tree).state = tree := by
  by_cases hwrites : ∃ path document, Writes scene tree words path document
  · obtain ⟨path, document, hwrites⟩ := hwrites
    obtain ⟨hresult, hstate⟩ := run_of_writes hwrites
    rw [hresult] at hfailed
    rw [hstate]
    cases hplace : tree.writeNames path with
    | error o => simp only [FileTree.writeText, hplace]
    | ok place =>
      -- The path can be written to, so that it is for the document to fail.
      cases hbytes : Utf8.encode document with
      | ok bytes =>
        simp only [FileTree.writeText, hplace, hbytes] at hfailed
        exact absurd rfl hfailed
      | error p =>
        have hnone : ¬ document.IsEncodable := fun hdocument => by
          obtain ⟨bytes, hok⟩ := Utf8.exists_encode_iff.2 hdocument
          cases hbytes.symm.trans hok
        exact absurd ⟨path, document, hwrites, hnone, hplace⟩ (h place)
  · exact state_run fun path document h => hwrites ⟨path, document, h⟩

/-- **When a run that fails leaves every file as it was**: if it does not come to write a document
without bytes, or there was an empty file where it does. If it comes to that, the file is empty
afterwards, and there is one where there was none; if not, the files are what they were. -/
theorem failed_run_keeps_files_iff (hfailed : (run scene words tree).result ≠ .ok 0) :
    let after := (run scene words tree).state
    ((∀ names, after.at? names = tree.at? names) ↔
        ∀ place, Spoils scene tree words place → tree.at? place = some (.file [])) ∧
      (∀ place, Spoils scene tree words place → after = tree.put place []) ∧
      ((∀ place, ¬ Spoils scene tree words place) → after = tree) := by
  intro after
  have hspoilt (place : List Text) (h : Spoils scene tree words place) :
      after = tree.put place [] := state_of_spoils h
  have hkept (h : ∀ place, ¬ Spoils scene tree words place) : after = tree :=
    state_of_failed hfailed h
  refine ⟨⟨fun hsame place h => ?_, fun h => ?_⟩, hspoilt, hkept⟩
  · rw [← hsame place, hspoilt place h]
    exact FileTree.at?_put_self _ _ _
  · by_cases hspoils : ∃ place, Spoils scene tree words place
    · obtain ⟨place, hspoils⟩ := hspoils
      intro names
      rw [hspoilt place hspoils]
      -- The place is the only one in which anything can have changed.
      by_cases hnames : names = place
      · rw [hnames, FileTree.at?_put_self, h place hspoils]
      · obtain ⟨path, document, -, -, hwritable⟩ := hspoils
        obtain ⟨folder, name, rfl, hplace⟩ := FileTree.isPlace_of_writeNames hwritable
        exact FileTree.at?_put_of_ne hplace.at_folder hnames
    · intro names
      rw [hkept fun place h => hspoils ⟨place, h⟩]

/-- A label that is refused leaves the file that it was to be compiled into as it was. -/
theorem failed_run_keeps_files_of_bad_label :
    let scene : Scene := {
      now := ⟨⟨2024, 3, 1, by decide, by decide, by decide⟩, .midnight, none⟩
      stamp := "<time>", wire := {} }
    let tree : FileTree := [(["l.json"], .file [0x5B, 0x5D]), (["o.zpl"], .file [0x6F])]
    let words : List Text := ["compile", "--label", "l.json", "--output", "o.zpl"]
    (run scene words tree).result = .ok 2 ∧
      ∀ names, (run scene words tree).state.at? names = tree.at? names := by
  intro scene tree words
  have htwo : (run scene words tree).result = .ok 2 := eq_ok_of_toOption (by decide +kernel)
  have hfailed : (run scene words tree).result ≠ .ok 0 := by
    rw [htwo]
    exact nofun
  have hread : Job.read words =
      .ok ⟨.null, .null, false, .compile (.text "l.json") (.text "o.zpl")⟩ := by rfl
  have hrefused : (documentOf scene.now tree (.text "l.json")).toOption = none := by rfl
  obtain ⟨hiff, -, -⟩ := failed_run_keeps_files_iff hfailed
  refine ⟨htwo, hiff.2 fun place hspoils => ?_⟩
  obtain ⟨path, document, hwrites, -, -⟩ := hspoils
  cases hwrites with
  | mk starts task named compiled =>
    obtain rfl := Except.ok.inj (hread.symm.trans starts.read_eq)
    cases task
    rw [compiled] at hrefused
    cases hrefused

/-- **A file is lost to a name that is half a surrogate pair**: the run ends with a fault and the file
is empty. -/
theorem failed_run_empties_file :
    let scene : Scene := {
      now := ⟨⟨2024, 3, 1, by decide, by decide, by decide⟩, .midnight, none⟩
      stamp := "<time>", wire := {} }
    let tree : FileTree := [
      (["l.json"], .file ((Utf8.encode
        "\x7b\"due_time\":\"9:05\",\"customer_name\":\"\\udfff\"\x7d").toOption.getD [])),
      (["o.zpl"], .file [0x6F])]
    let done := run scene ["compile", "--label", "l.json", "--output", "o.zpl"] tree
    done.result.toOption = none ∧ tree.at? ["o.zpl"] = some (.file [0x6F]) ∧
      done.state.at? ["o.zpl"] = some (.file []) := by
  decide +kernel

end Program

end LabelPress
