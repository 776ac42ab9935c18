import LabelPress.Program.Run
import LabelPress.Proofs.Arguments.Reader
import LabelPress.Proofs.Settings.Port

/-!
# Where a plan comes from

Where and how a document is sent is said by the command line, by a file with settings and by neither,
each of five things by itself. `PrinterChoices.merged` says of each whose word it is: that of the
command line, or else that of the file, or else the standard, an empty address being as good a word as
any. A run reads the settings first, with their standards in place, and then looks at the command line
over them, which comes to the same plan (`plan_eq_merged`).
-/

namespace LabelPress

namespace Program

variable {tree : FileTree} {words : List Text} {job : Job} {s : Settings}

/-! ## Three sources -/

/-- What an option was given, if anything. -/
def given? : Value → Option Value
  | .null => none
  | v => some v

/-- The time limit that a piece of data in a file stands for. -/
def timeLimit (v : Value) : Value :=
  match Settings.readTimeout v with
  | .ok x => .float x
  | .error _ => v

/-- The address that a piece of data gives. -/
def addressGiven : Value → AddressGiven
  | .text t => .text t
  | _ => .leftOut

/-- The plan of what a command line says on the printer, and of what a table of a file says on it where
the command line does not. -/
def PrinterChoices.merged (c : PrinterChoices) (file : Table) : Plan :=
  let kindInFile := ((file.get? "transport").bind Value.text?).bind LinkKind.ofWord?
  let kind := (c.kind.or kindInFile).getD .network
  { endpoint := {
      kind := .kind kind
      address := addressGiven (((given? c.address).or (file.get? "address")).getD (.text []))
      port := ((given? c.port).or (file.get? "port")).getD .null }
    kind
    timeout := ((given? c.timeout).or ((file.get? "timeout").map timeLimit)).getD
      (.float (.ofDecimal false 5 0))
    dryRun := c.dry || ((file.get? "dry_run").bind Value.bool?).getD false }

/-- What the file with the settings of a job, if it names one, says on the printer. -/
def Job.printerTable (job : Job) (tree : FileTree) : Table :=
  match job.config with
  | .text (c :: t) =>
    match Settings.readFile tree (.ofText (c :: t)) with
    | .ok v => Settings.part v "printer"
    | .error _ => []
  | _ => []

theorem or_given? (v : Value) (file : Option Value) (standard : Value) :
    ((given? v).or file).getD standard = orElse v (file.getD standard) := by
  cases v <;> rfl

theorem addressOr_eq (standard : Text) (v : Value) :
    addressOr standard v = addressGiven (orElse v (.text standard)) := by
  cases v <;> rfl

/-! ## The same plan -/

/-- An address in a file that keeps the rules is a text. -/
theorem address_of_kept {v w : Value} (h : Schema.ruleViolations [] v Settings.rules = [])
    (hw : (Settings.part v "printer").get? "address" = some w) : ∃ t, w = .text t := by
  have hrule : (Text.ofString "address", [Schema.Rule.kinds [.text]]) ∈ Settings.printerRules :=
    .tail _ (.head _)
  have hkept := Settings.kept_of_part h (.head _) hrule hw
  simp only [Schema.ruleViolations_cons_eq_nil, Schema.violationsOf_kinds_eq_nil,
    List.mem_singleton, exists_eq_left] at hkept
  exact Schema.has_text_iff.1 hkept.1

/-- The plan over settings is the plan over the table that the settings come of. -/
theorem plan_of_ofTables {printer logging : Table}
    (h : Settings.ofTables printer logging = .ok s)
    (haddress : ∀ v, printer.get? "address" = some v → ∃ t, v = .text t) (c : PrinterChoices) :
    c.plan s = c.merged printer := by
  obtain ⟨limit, hlimit, h⟩ := bind_eq_ok_iff.1 h
  obtain rfl := Except.ok.inj h
  have hkind (standard : LinkKind) : c.kind.getD
      ((((printer.get? "transport").bind Value.text?).bind LinkKind.ofWord?).getD standard) =
      (c.kind.or (((printer.get? "transport").bind Value.text?).bind LinkKind.ofWord?)).getD
        standard := by
    cases c.kind <;> rfl
  -- Settings pass over an address that is no text, and `merged` does not; the rules rule it out.
  have htext : (printer.get? "address").getD (.text []) =
      .text (((printer.get? "address").bind Value.text?).getD []) := by
    cases hentry : printer.get? "address" with
    | none => rfl
    | some v =>
      obtain ⟨t, rfl⟩ := haddress v hentry
      rfl
  -- The limit has been read as it stands in the file, where a whole number is another form of it.
  have htimeout : ((printer.get? "timeout").map timeLimit).getD (.float (.ofDecimal false 5 0)) =
      .float limit := by
    cases hentry : printer.get? "timeout" with
    | none =>
      rw [hentry] at hlimit
      exact congrArg Value.float (Except.ok.inj hlimit)
    | some v =>
      rw [hentry] at hlimit
      have hv : Settings.readTimeout v = .ok limit := hlimit
      simp only [Option.map_some, Option.getD_some, timeLimit, hv]
  simp only [PrinterChoices.plan, PrinterChoices.merged, hkind, addressOr_eq, or_given?, htext,
    htimeout]

/-- **The plan of a run is that of its three sources.** -/
theorem plan_eq_merged (h : job.settings tree = .ok s) (c : PrinterChoices) :
    c.plan s = c.merged (job.printerTable tree) := by
  unfold Job.settings at h
  split at h
  · next t hconfig =>
    obtain ⟨v, hread, hkept, htables⟩ := Settings.ofTables_of_load h
    have htable : job.printerTable tree = Settings.part v "printer" := by
      simp only [Job.printerTable, hconfig, hread]
    rw [htable]
    exact plan_of_ofTables htables (fun w hw => address_of_kept hkept hw) c
  · next hconfig =>
    obtain rfl := Except.ok.inj h
    have htable : job.printerTable tree = [] := by
      unfold Job.printerTable
      split
      · next t hnamed => exact absurd hnamed (hconfig _ t)
      · rfl
    have hnone : Settings.ofTables [] [] = .ok {} := rfl
    rw [htable]
    exact plan_of_ofTables hnone (fun w hw => by cases hw) c

/-! ## Ports that can be shown -/

/-- What a task says on the printer. -/
def Task.printer? : Task → Option PrinterChoices
  | .compile .. => none
  | .send _ printer | .print _ printer => some printer

theorem isShowable_value {found : Arguments.Found} (h : found.IsShowable) (name : Text) :
    (value found name).isShowable = true := by
  unfold value
  cases hlast : found.last? name with
  | none => rfl
  | some v =>
    obtain ⟨p, hp, rfl⟩ := Option.map_eq_some_iff.1 hlast
    exact h p (List.mem_reverse.1 (List.mem_of_find?_eq_some hp))

/-- A command puts into its task what its options were given. -/
theorem isShowable_port_of_mem {command : Command} (hmem : command ∈ commands)
    {found : Arguments.Found} (h : found.IsShowable) {printer : PrinterChoices}
    (hprinter : (command.task found).printer? = some printer) :
    printer.port.isShowable = true := by
  unfold commands at hmem
  simp only [List.mem_cons, List.not_mem_nil, or_false] at hmem
  rcases hmem with rfl | rfl | rfl
  · cases hprinter
  · obtain rfl := Option.some.inj hprinter
    exact isShowable_value h _
  · obtain rfl := Option.some.inj hprinter
    exact isShowable_value h _

theorem isShowable_port_of_readTask {task : Task} {more : List Text}
    (h : readTask words = .ok (task, more)) {printer : PrinterChoices}
    (hprinter : task.printer? = some printer) : printer.port.isShowable = true := by
  unfold readTask at h
  split at h
  · cases h
  · split at h
    · cases h
    · next command hcommand =>
      obtain ⟨found, hfound, h⟩ := bind_eq_ok_iff.1 h
      obtain ⟨rfl, -⟩ := Prod.mk.inj (Except.ok.inj h)
      have hshow := Arguments.isShowable_of_read_eq_ok (mapError_eq_ok_iff.1 hfound)
      exact isShowable_port_of_mem (List.mem_of_find?_eq_some hcommand) hshow hprinter

/-- The port that a command line gives can be shown, as everything that it gives. -/
theorem isShowable_port_of_read (h : Job.read words = .ok job) {printer : PrinterChoices}
    (hprinter : job.task.printer? = some printer) : printer.port.isShowable = true := by
  obtain ⟨found, -, h⟩ := bind_eq_ok_iff.1 h
  obtain ⟨⟨task, more⟩, htask, h⟩ := bind_eq_ok_iff.1 h
  dsimp only at h
  split at h
  · obtain rfl := Except.ok.inj h
    exact isShowable_port_of_readTask htask hprinter
  · cases h

/-- So can the port of settings, which is none or in range. -/
theorem isShowable_port_of_settings (h : job.settings tree = .ok s) :
    s.port.isShowable = true := by
  unfold Job.settings at h
  split at h
  · rcases Settings.port_of_load h with hnull | ⟨n, hlow, hhigh, hint | ⟨x, hfloat, -⟩⟩
    · rw [hnull]
      rfl
    · rw [hint]
      exact Digits.fits_of_natAbs_lt (by omega)
    · rw [hfloat]
      rfl
  · obtain rfl := Except.ok.inj h
    rfl

/-- **The port of the plan of a run can be shown.** -/
theorem isShowable_port_plan (hread : Job.read words = .ok job)
    (hsettings : job.settings tree = .ok s) {printer : PrinterChoices}
    (hprinter : job.task.printer? = some printer) :
    (printer.plan s).endpoint.port.isShowable = true := by
  have hgiven := isShowable_port_of_read hread hprinter
  have hstandard := isShowable_port_of_settings hsettings
  simp only [PrinterChoices.plan]
  cases hport : printer.port with
  | null => exact hstandard
  | _ =>
    rw [hport] at hgiven
    exact hgiven

end Program

end LabelPress
