import LabelPress.Proofs.Label.Loading
import LabelPress.Program.Run

/-!
# Runs up to their task

A run `Starts` if its command line asks for a job and there are settings for it; what it comes to is
then what its task comes to. A task that reads a label either goes on with the document of the label
or ends with the fault of loading it, which is a complaint if it is a refusal and else the fault of the
run.
-/

namespace LabelPress

namespace Program

variable {scene : Scene} {tree : FileTree} {words : List Text} {job : Job} {s : Settings}
  {logs : Log.Setup} {task : Task} {label : Text} {f : Fault}

theorem run_eq (h : Job.read words = .ok job) :
    run scene words tree = match job.settings tree with
      | .error f => refuse .config f tree
      | .ok s => match job.logSetup s with
        | .error f => ⟨.error f, tree, []⟩
        | .ok logs => job.task.carryOut scene logs s tree := by
  simp only [run, h, Job.carryOut, Action.bind_apply, Action.get_apply, List.nil_append]
  cases job.settings tree with
  | error f => rfl
  | ok s =>
    simp only [Action.bind_apply, Action.ofExcept_apply]
    cases job.logSetup s with
    | error f => rfl
    | ok logs => simp only [List.nil_append]

/-- A run that comes to its task: the job of its command line, its settings, and how it logs. -/
structure Starts (tree : FileTree) (words : List Text) (job : Job) (s : Settings)
    (logs : Log.Setup) : Prop where
  read_eq : Job.read words = .ok job
  settings_eq : job.settings tree = .ok s
  logSetup_eq : job.logSetup s = .ok logs

theorem run_of_starts (h : Starts tree words job s logs) :
    run scene words tree = job.task.carryOut scene logs s tree := by
  simp only [run_eq h.read_eq, h.settings_eq, h.logSetup_eq]

/-- The path of the label that a task reads. -/
def Task.label? : Task → Option Text
  | .compile (.text label) _ | .print (.text label) _ => some label
  | _ => none

/-- What a run comes to that ends with a complaint about its label. -/
def complained (tree : FileTree) (why : Text) : Run Effect FileTree Nat :=
  ⟨.ok 2, tree, [.noted (Utf8.escapeHalves (name ++ ": error: " ++ why ++ "\n"))]⟩

theorem refuse_of_kind {kind : FaultKind} (h : f.kind = kind) :
    refuse kind f tree = complained tree f.message := by
  rw [refuse, if_pos h]
  rfl

theorem refuse_of_ne {kind : FaultKind} (h : f.kind ≠ kind) :
    refuse kind f tree = ⟨.error f, tree, []⟩ := by
  rw [refuse, if_neg h]
  rfl

theorem carryOut_of_load_error (htask : task.label? = some label)
    (h : Description.load tree (.path (.ofText label)) = .error f) :
    task.carryOut scene logs s tree = refuse .labelData f tree := by
  have hdocument : documentOf scene.now tree (.text label) = .error f :=
    bind_eq_error_iff.2 (.inr ⟨_, rfl, bind_eq_error_iff.2 (.inl h)⟩)
  unfold Task.label? at htask
  split at htask
  · cases htask
    simp only [Task.carryOut, Action.bind_apply, Action.get_apply, hdocument, List.nil_append]
  · cases htask
    simp only [Task.carryOut, Action.bind_apply, Action.get_apply, hdocument, List.nil_append]
  · cases htask

/-! ## Bad labels -/

open Description in
/-- **The sources of which nothing comes but a label or a refusal**, and the runs that meet a refusal
with a complaint. Both are settled by the source being text all through: where it is not, another fault
comes of it, and a run that reads such a source ends with that fault. -/
theorem refuses_bad_label_iff (tree : FileTree) :
    (∀ source, (∀ v, source ≠ .value v) →
      (OnlyRefuses (load tree source) ↔ source.IsTextual tree)) ∧
    ∀ scene words job s logs label, Starts tree words job s logs → job.task.label? = some label →
      ((∀ f, load tree (.path (.ofText label)) = .error f →
        run scene words tree = complained tree f.message) ↔ HoldsText tree (.ofText label)) := by
  refine ⟨fun source hsource => onlyRefuses_load_iff hsource, ?_⟩
  intro scene words job s logs label hstarts hlabel
  have hload : OnlyRefuses (load tree (.path (.ofText label))) ↔ HoldsText tree (.ofText label) :=
    onlyRefuses_load_iff fun _ => nofun
  rw [← hload]
  have hrun {f : Fault} (hf : load tree (.path (.ofText label)) = .error f) :
      run scene words tree = refuse .labelData f tree := by
    rw [run_of_starts hstarts, carryOut_of_load_error hlabel hf]
  constructor
  · intro h f hf
    by_cases hkind : f.kind = .labelData
    · exact hkind
    · have hend := congrArg Run.result ((hrun hf).symm.trans (h f hf))
      rw [refuse_of_ne hkind] at hend
      cases hend
  · intro h f hf
    rw [hrun hf, refuse_of_kind (h f hf)]

open Description in
/-- A label file that holds an empty list is text all through, and so refused: a run that is to
compile it ends with a complaint. -/
theorem refuses_empty_list :
    let tree : FileTree := [(["l.json"], .file [0x5B, 0x5D])]
    let source : Source := .path (.ofText "l.json")
    let words : List Text := ["compile", "--label", "l.json"]
    let job : Job := { config := .null, logLevel := .null, jsonLogs := false,
                       task := .compile (.text "l.json") .null }
    let scene : Scene := {
      now := ⟨⟨2024, 3, 1, by decide, by decide, by decide⟩, .midnight, none⟩
      stamp := "<time>", wire := {} }
    (∀ v, source ≠ .value v) ∧ OnlyRefuses (load tree source) ∧
      Starts tree words job {} ⟨20, false⟩ ∧ job.task.label? = some (Text.ofString "l.json") ∧
      run scene words tree =
        complained tree "Invalid label description at <root>: [] is not of type 'object'" := by
  intro tree source words job scene
  have hsource : ∀ v, source ≠ .value v := fun _ => nofun
  have htext : HoldsText tree (.ofText "l.json") := by
    refine ⟨⟨by rfl, by rfl⟩, fun bytes h => ?_⟩
    obtain rfl : [0x5B, 0x5D] = bytes := Except.ok.inj h
    exact ⟨"[]", by rfl, fun digits => nofun⟩
  have hstarts : Starts tree words job {} ⟨20, false⟩ := ⟨by rfl, by rfl, by rfl⟩
  have hlabel : job.task.label? = some (Text.ofString "l.json") := rfl
  have hfault : load tree (.path (.ofText "l.json")) = .error ⟨.labelData,
    "Invalid label description at <root>: [] is not of type 'object'"⟩ := by rfl
  obtain ⟨hload, hrun⟩ := refuses_bad_label_iff tree
  have hrefuses : OnlyRefuses (load tree source) := (hload source hsource).2 htext
  have hcomplained := (hrun scene words job {} ⟨20, false⟩ "l.json" hstarts hlabel).2 htext _ hfault
  exact ⟨hsource, hrefuses, hstarts, hlabel, hcomplained⟩

open Description in
/-- A file with a byte that starts no code point is not refused: its fault is that of the decoding. -/
theorem load_raises_for_stray_byte :
    let tree : FileTree := [(["l.json"], .file [0xFF])]
    load tree (.path (.ofText "l.json")) = .error ⟨.unicodeDecode,
      "'utf-8' codec can't decode byte 0xff in position 0: invalid start byte"⟩ ∧
    ¬ OnlyRefuses (load tree (.path (.ofText "l.json"))) := by
  intro tree
  have hload : load tree (.path (.ofText "l.json")) = .error ⟨.unicodeDecode,
    "'utf-8' codec can't decode byte 0xff in position 0: invalid start byte"⟩ := by rfl
  refine ⟨hload, fun h => ?_⟩
  cases h _ hload

end Program

end LabelPress
