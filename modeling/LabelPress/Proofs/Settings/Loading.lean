import LabelPress.Proofs.Files.Tree
import LabelPress.Proofs.Number.Binary64
import LabelPress.Proofs.Schema.Rules
import LabelPress.Settings

/-!
# Faults of loading settings

A settings file is refused by a fault of one kind, with the reason in its wording. Loading goes
through six steps, and each can fail in a way of its own that is not a refusal: the path can have
too long a name, there can be a folder in place of the file, its bytes can be no text, a whole
number can have more digits than are read, an offending value more than are written, and a time
limit that keeps the rules can be too large. A file that is free of all these is `IsPlain`, and
these are exactly the files of which no other fault comes (`onlyRaises_load_iff`).
-/

namespace LabelPress

namespace Settings

/-! ## Forms of settings files -/

/-- The forms in which settings are written. -/
inductive Form where
  | toml
  | json

/-- The form that a name tells of. -/
def formOf? (path : Path) : Option Form :=
  let suffix := path.suffix.toAsciiLower
  if suffix = Text.ofString ".toml" then some .toml
  else if suffix = Text.ofString ".json" then some .json
  else none

/-- Why a document cannot be read: it is not in the form, or stops at a whole number of too many
digits. -/
inductive Flaw where
  | malformed (why : Text)
  | longInt (digits : Nat)

/-- The fault that a flaw raises. -/
def Flaw.fault (path : Path) : Flaw → Fault
  | .malformed why => (Problem.malformed path why).fault
  | .longInt digits => ⟨.value, Digits.limitMessage digits⟩

/-- What a document in a form holds. -/
def Form.read (form : Form) (document : Text) : Except Flaw Value :=
  match form with
  | .toml =>
    match Toml.read document with
    | .ok table => .ok (.table table)
    | .error .malformed => .error (.malformed "<toml>")
    | .error (.longInt digits) => .error (.longInt digits)
  | .json =>
    let document := document.foldNewlines
    match Json.read document with
    | .ok v => .ok v
    | .error (.malformed c place) =>
      .error (.malformed ((Json.Problem.malformed c place).message document))
    | .error (.longInt digits) => .error (.longInt digits)

/-- The data of the file at a path, read in a form. -/
def Form.readAt (form : Form) (tree : FileTree) (path : Path) : Except Fault Value := do
  let bytes ← (tree.readBytes path).mapError (FileTree.Obstacle.fault path)
  let document ← (Utf8.decode bytes).mapError Fault.ofDecode
  (form.read document).mapError (Flaw.fault path)

variable {tree : FileTree} {path : Path} {v : Value} {form : Form} {document : Text} {bytes : Bytes}

theorem readToml_eq : readToml tree path = Form.toml.readAt tree path := by
  refine bind_congr fun bytes => bind_congr fun document => ?_
  simp only [Form.read]
  rcases Toml.read document with (_ | digits) | table <;> rfl

theorem readJson_eq : readJson tree path = Form.json.readAt tree path := by
  rw [readJson, FileTree.readText_eq, bind_assoc]
  refine bind_congr fun bytes => ?_
  rw [bind_assoc]
  refine bind_congr fun document => ?_
  rw [pure_bind]
  simp only [Form.read]
  rcases Json.read document.foldNewlines with (⟨c, place⟩ | digits) | v <;> rfl

/-- **A settings file is read in the form that its name tells of**, and in the same steps whatever
the form. -/
theorem readFile_eq (tree : FileTree) (path : Path) :
    readFile tree path = match formOf? path with
      | some form => form.readAt tree path
      | none => .error (Problem.unknownForm path.suffix).fault := by
  unfold readFile formOf?
  dsimp only
  rw [readToml_eq, readJson_eq]
  split
  · rfl
  · split <;> rfl

/-! ## Settings whose faults can be told -/

/-- The table under a name, empty where there is none. -/
def part (v : Value) (name : Text) : Table := ((v.get? name).bind Value.table?).getD []

/-- Whether a table does not set a whole number for the time limit that is too large for one. -/
def HasFiniteTimeout (printer : Table) : Prop :=
  ∀ n, printer.get? "timeout" = some (.int n) → n.natAbs < Binary64.tooLarge

/-- Whether all that can be wrong with a piece of data can be told: every value that breaks a rule
can be shown, and if none does, the time limit is not too large. -/
structure IsTellable (v : Value) : Prop where
  isShowable : ∀ violation ∈ Schema.ruleViolations [] v rules, violation.cause.isShowable = true
  timeout : Schema.ruleViolations [] v rules = [] → HasFiniteTimeout (part v "printer")

theorem onlyRaises_readTimeout_iff :
    OnlyRaises .config (readTimeout v) ↔ ∀ n, v = .int n → n.natAbs < Binary64.tooLarge := by
  cases v with
  | int n =>
    simp only [Value.int.injEq, forall_eq']
    rw [← Nat.not_le, ← Binary64.ofInt?_eq_none_iff, readTimeout]
    cases Binary64.ofInt? n with
    | none => exact iff_of_false (fun h => nomatch OnlyRaises.error_iff.1 h) (by simp)
    | some x => exact iff_of_true OnlyRaises.ok nofun
  | _ => exact iff_of_true OnlyRaises.ok nofun

/-- Tables that keep the rules only fail for their time limit. -/
theorem onlyRaises_ofTables_iff {printer logging : Table} :
    OnlyRaises .config (ofTables printer logging) ↔ HasFiniteTimeout printer := by
  unfold ofTables HasFiniteTimeout
  refine (OnlyRaises.bind_iff.trans (and_iff_left fun _ _ => OnlyRaises.ok)).trans ?_
  cases printer.get? "timeout" with
  | none => exact iff_of_true OnlyRaises.ok nofun
  | some v => simpa using onlyRaises_readTimeout_iff

theorem ofValue_eq (v : Value) :
    ofValue v = Schema.check rules v >>= fun
      | some violation => .error (Problem.invalid violation).fault
      | none => ofTables (part v "printer") (part v "logging") := rfl

/-- **Of a piece of data come settings or a refusal exactly if all that can be wrong can be told.**
-/
theorem onlyRaises_ofValue_iff : OnlyRaises .config (ofValue v) ↔ IsTellable v := by
  rw [ofValue_eq, OnlyRaises.bind_iff]
  constructor
  · rintro ⟨hcheck, hnext⟩
    refine ⟨(Schema.onlyRaises_check_iff (by decide)).1 hcheck, fun hkept => ?_⟩
    exact onlyRaises_ofTables_iff.1 (hnext none (Schema.check_eq_none_iff.2 hkept))
  · rintro ⟨hshow, htimeout⟩
    refine ⟨(Schema.onlyRaises_check_iff (by decide)).2 hshow, fun found hfound => ?_⟩
    cases found with
    | some violation => exact OnlyRaises.error_iff.2 rfl
    | none => exact onlyRaises_ofTables_iff.2 (htimeout (Schema.check_eq_none_iff.1 hfound))

/-! ## Files whose faults can be told -/

/-- Whether all that can be wrong with a document in a form can be told: its reading does not come
to a whole number with too many digits, and what it holds can be told of. -/
structure Form.IsTellable (form : Form) (document : Text) : Prop where
  shortNumbers : ∀ digits, form.read document ≠ .error (.longInt digits)
  holds : ∀ v, form.read document = .ok v → Settings.IsTellable v

/-- Whether there is a file at a path, with text in it that can be told of. -/
def Form.HoldsTellable (form : Form) (tree : FileTree) (path : Path) : Prop :=
  ∃ bytes document, tree.readBytes path = .ok bytes ∧ Utf8.decode bytes = .ok document ∧
    form.IsTellable document

/-- Whether all that can be wrong with a settings file can be told: no name on the way to it is too
long, and if the way leads anywhere, and the last name tells of a form, it leads to a file whose
text in that form can be told of. -/
structure IsPlain (tree : FileTree) (path : Path) : Prop where
  shortNames : tree.leadsTo path ≠ .error .nameTooLong
  holds : tree.leadsTo path = .ok () → ∀ form, formOf? path = some form →
    form.HoldsTellable tree path

theorem onlyRaises_read_iff :
    OnlyRaises .config ((form.read document).mapError (Flaw.fault path) >>= ofValue) ↔
      form.IsTellable document := by
  cases hread : form.read document with
  | ok v =>
    refine onlyRaises_ofValue_iff.trans ⟨fun h => ⟨fun digits => ?_, fun w hw => ?_⟩, fun h => ?_⟩
    · rw [hread]
      exact nofun
    · rw [hread] at hw
      exact Except.ok.inj hw ▸ h
    · exact h.holds v hread
  | error flaw =>
    refine OnlyRaises.error_iff.trans ?_
    cases flaw with
    | malformed why =>
      refine iff_of_true rfl ⟨fun digits => ?_, fun v => ?_⟩
      all_goals
        rw [hread]
        exact nofun
    | longInt digits =>
      exact iff_of_false nofun fun h => h.shortNumbers digits hread

/-- **Of a file come settings or a refusal exactly if it holds what can be told of.** No obstacle on
the way to it is a refusal, and neither is one to its decoding. -/
theorem onlyRaises_readAt_iff :
    OnlyRaises .config (form.readAt tree path >>= ofValue) ↔ form.HoldsTellable tree path := by
  -- Neither an obstacle on the way nor a stray byte is a refusal, so the first two steps succeed.
  have hobstacle (o : FileTree.Obstacle) : (o.fault path).kind ≠ .config := by cases o <;> nofun
  have hstray (p : Utf8.DecodeProblem) : (Fault.ofDecode p).kind ≠ .config := nofun
  rw [Form.readAt, bind_assoc, OnlyRaises.mapError_bind_iff hobstacle, Form.HoldsTellable]
  refine exists_congr fun bytes => ?_
  rw [bind_assoc, OnlyRaises.mapError_bind_iff hstray, exists_and_left]
  refine and_congr_right fun _ => exists_congr fun document => ?_
  rw [onlyRaises_read_iff]

theorem onlyRaises_isThere_iff :
    OnlyRaises .config (isThere tree path) ↔ tree.leadsTo path ≠ .error .nameTooLong := by
  unfold isThere
  rcases tree.leadsTo path with o | _
  · cases o <;> dsimp only
    case nameTooLong =>
      refine iff_of_false (fun h => ?_) (fun h => h rfl)
      cases OnlyRaises.error_iff.1 h
    all_goals exact iff_of_true OnlyRaises.ok nofun
  · exact iff_of_true OnlyRaises.ok nofun

theorem isThere_eq_true_iff : isThere tree path = .ok true ↔ tree.leadsTo path = .ok () := by
  unfold isThere
  rcases tree.leadsTo path with o | _
  · cases o <;> simp
  · simp

/-- **The settings files of which nothing comes but settings or a refusal** are those about which
all that can be wrong can be told. -/
theorem onlyRaises_load_iff (tree : FileTree) (path : Path) :
    OnlyRaises .config (load tree path) ↔ IsPlain tree path := by
  have hload : load tree path = isThere tree path >>= fun there =>
      if there then readFile tree path >>= ofValue else .error (Problem.missing path).fault := rfl
  rw [hload, OnlyRaises.bind_iff, onlyRaises_isThere_iff]
  constructor
  · rintro ⟨hnames, hnext⟩
    refine ⟨hnames, fun hleads form hform => ?_⟩
    have hfile := hnext true (isThere_eq_true_iff.2 hleads)
    rw [if_pos rfl, readFile_eq, hform] at hfile
    exact onlyRaises_readAt_iff.1 hfile
  · rintro ⟨hnames, hholds⟩
    refine ⟨hnames, fun there hthere => ?_⟩
    cases there with
    | false => exact OnlyRaises.error_iff.2 rfl
    | true =>
      rw [if_pos rfl, readFile_eq]
      cases hform : formOf? path with
      | none => exact OnlyRaises.error_iff.2 rfl
      | some form =>
        exact onlyRaises_readAt_iff.2 (hholds (isThere_eq_true_iff.1 hthere) form hform)

/-- **Three files that are neither loaded nor refused**: a folder in place of the file, a byte that
starts no code point, and a time limit that keeps the rules and is too large for one. -/
theorem load_raises_otherwise :
    let folder : FileTree := [(["d.toml"], .folder)]
    let stray : FileTree := [(["c.json"], .file [0xFF])]
    let zeros : Text := List.replicate 400 (.scalar '0')
    let document := Text.ofString "[printer]\ntimeout = 1" ++ zeros
    let large : FileTree := [(["t.toml"], .file ((Utf8.encode document).toOption.getD []))]
    load folder (.ofText "d.toml") =
        .error ⟨.isDirectory, "[Errno 21] Is a directory: 'd.toml'"⟩ ∧
      load stray (.ofText "c.json") = .error ⟨.unicodeDecode,
        "'utf-8' codec can't decode byte 0xff in position 0: invalid start byte"⟩ ∧
      OnlyRaises .overflow (load large (.ofText "t.toml")) ∧
      ¬ OnlyRaises .config (load folder (.ofText "d.toml")) ∧
      ¬ OnlyRaises .config (load stray (.ofText "c.json")) ∧
      ¬ OnlyRaises .config (load large (.ofText "t.toml")) := by
  intro folder stray zeros document large
  refine ⟨by rfl, by rfl, by decide +kernel, by decide +kernel, by decide +kernel,
    by decide +kernel⟩

end Settings

end LabelPress
