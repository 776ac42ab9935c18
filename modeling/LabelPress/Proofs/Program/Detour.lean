import LabelPress.Proofs.Files.Write
import LabelPress.Proofs.Program.Run
import LabelPress.Proofs.Text.Utf8

/-!
# Printing by way of a file

A label may be printed at once, or be compiled into a file which is then sent. The document takes two
routes to the printer: as a text that is encoded, or as the bytes of a file that the text was encoded
into. What comes before the sending is the same on both, since the file changes nothing about the
settings; and the sending itself neither looks at the files nor changes them.
-/

namespace LabelPress

namespace Settings

open FileTree

/-- **Settings in another file are not changed by a file that is written.** -/
theorem load_put {tree : FileTree} {folder : List Text} {name : Text} {path : Path}
    (hfolder : tree.at? folder = some .folder)
    (hplace : tree.at? (folder ++ [name]) ≠ some .folder) (bytes : Bytes)
    (hpath : walk (put (folder ++ [name]) bytes tree) path ≠
      .ok (.inside (folder ++ [name]).reverse)) :
    load (put (folder ++ [name]) bytes tree) path = load tree path := by
  have halters := walk_put hfolder hplace bytes path
  have hthere : isThere (put (folder ++ [name]) bytes tree) path = isThere tree path := by
    unfold isThere leadsTo
    generalize walk tree path = before at halters ⊢
    generalize walk (put (folder ++ [name]) bytes tree) path = after at halters hpath ⊢
    cases halters with
    | not => rfl
    | found => exact absurd rfl hpath
    | past => rfl
  have hread (h : isThere (put (folder ++ [name]) bytes tree) path = .ok true) :
      readFile (put (folder ++ [name]) bytes tree) path = readFile tree path := by
    cases hwalk : walk (put (folder ++ [name]) bytes tree) path with
    | error o =>
      unfold isThere leadsTo at h
      rw [hwalk] at h
      cases o <;> cases h
    | ok spot =>
      have hspot : spot ≠ .inside (folder ++ [name]).reverse := fun heq => hpath (heq ▸ hwalk)
      simp only [readFile, readToml, readJson, readText,
        readBytes_put hfolder hplace bytes hwalk hspot]
  unfold load
  rw [hthere]
  cases h : isThere tree path with
  | error f => rfl
  | ok there =>
    cases there with
    | false => rfl
    | true =>
      change (readFile _ path >>= ofValue) = (readFile tree path >>= ofValue)
      rw [hread (hthere.trans h)]

end Settings

namespace Program

variable {scene : Scene} {tree : FileTree} {words : List Text} {job : Job}

/-! ## Steady parts of a run -/

theorem isSteady_say (line : Text) : (say line).IsSteady :=
  (Action.IsSteady.ofExcept _).bind fun _ => .emit _

theorem isSteady_sayAll (lines : List Text) : (sayAll lines).IsSteady := by
  induction lines with
  | nil => exact .pure ()
  | cons line lines ih => exact (isSteady_say line).bind fun _ => ih

theorem isSteady_refuse (kind : FaultKind) (f : Fault) : (refuse kind f).IsSteady := by
  unfold refuse
  split
  · exact (Action.IsSteady.emit _).bind fun _ => .pure 2
  · exact .raise f

/-- **Sending does not depend on the files.** -/
theorem isSteady_transmit (scene : Scene) (logs : Log.Setup) (plan : Plan) (document : Bytes) :
    (transmit scene logs plan document).IsSteady := by
  have hdeliver : (deliver scene logs plan document).IsSteady := ⟨_, _, fun _ => rfl⟩
  have hend (delivery : Delivery) :
      (do
        say (← Action.ofExcept (delivery.summary (some plan.endpoint)))
        return if delivery.ok then 0 else 1 : Doing Nat).IsSteady :=
    (Action.IsSteady.ofExcept _).bind fun _ => (isSteady_say _).bind fun _ => .pure _
  refine (isSteady_say _).bind fun _ => hdeliver.bind fun ⟨delivery, link⟩ => ?_
  dsimp only
  split
  · exact (isSteady_sayAll _).bind fun _ => hend delivery
  · exact hend delivery

/-! ## Tasks -/

section Tasks

variable {logs : Log.Setup} {s : Settings} {document : Text} {bytes : Bytes} {label : Value}
  {output : Text} {printer : PrinterChoices}

theorem refuse_result_ne (kind : FaultKind) (f : Fault) : (refuse kind f tree).result ≠ .ok 0 := by
  by_cases h : f.kind = kind
  · rw [refuse_of_kind h]
    exact nofun
  · rw [refuse_of_ne h]
    exact nofun

/-- A run of a job that ends well has come to its task. -/
theorem starts_of_result (h : Job.read words = .ok job)
    (hzero : (run scene words tree).result = .ok 0) : ∃ s logs, Starts tree words job s logs := by
  rw [run_eq h] at hzero
  cases hs : job.settings tree with
  | error f =>
    rw [hs] at hzero
    exact absurd hzero (refuse_result_ne _ f)
  | ok s =>
    cases hlogs : job.logSetup s with
    | error f => simp only [hs, hlogs] at hzero; cases hzero
    | ok logs => exact ⟨s, logs, h, hs, hlogs⟩

theorem carryOut_compile (h : documentOf scene.now tree label = .ok document) (output : Value) :
    (Task.compile label output).carryOut scene logs s tree =
      publish scene logs output document tree := by
  simp only [Task.carryOut, Action.bind_apply, Action.get_apply, h, List.nil_append]

theorem documentOf_of_compile {output : Value}
    (h : ((Task.compile label output).carryOut scene logs s tree).result = .ok 0) :
    ∃ document, documentOf scene.now tree label = .ok document := by
  cases hdocument : documentOf scene.now tree label with
  | ok document => exact ⟨document, rfl⟩
  | error f =>
    simp only [Task.carryOut, Action.bind_apply, Action.get_apply, hdocument] at h
    exact absurd h (refuse_result_ne _ f)

/-- **What a document put into a file comes to** is what writing it comes to. -/
theorem publish_text (h : output ≠ []) :
    (publish scene logs (.text output) document tree).result =
        (tree.writeText (.ofText output) document).1.map (fun _ => 0) ∧
      (publish scene logs (.text output) document tree).state =
        (tree.writeText (.ofText output) document).2 := by
  cases output with
  | nil => exact absurd rfl h
  | cons c t =>
    simp only [publish, writeFile, log, Action.bind_apply, Action.get_apply, Action.modify_apply,
      Action.ofExcept_apply]
    cases (tree.writeText (.ofText (c :: t)) document).1 with
    | error f => exact ⟨rfl, rfl⟩
    | ok _ => exact ⟨rfl, rfl⟩

theorem publish_null (h : Utf8.encode document = .ok bytes) :
    publish scene logs .null document tree = ⟨.ok 0, tree, [.printed document]⟩ := by
  simp only [publish, say, h, Action.bind_apply]
  rfl

theorem carryOut_send (h : tree.readBytes (.ofText output) = .ok bytes) :
    (Task.send (.text output) printer).carryOut scene logs s tree =
      transmit scene logs (printer.plan s) bytes tree := by
  simp only [Task.carryOut, readPath, Action.bind_apply, Action.ofExcept_apply, Action.get_apply, h,
    List.nil_append]
  rfl

theorem carryOut_print (hdocument : documentOf scene.now tree label = .ok document)
    (hbytes : Utf8.encode document = .ok bytes) :
    (Task.print label printer).carryOut scene logs s tree =
      transmit scene logs (printer.plan s) bytes tree := by
  simp only [Task.carryOut, Action.bind_apply, Action.get_apply, hdocument, hbytes,
    List.nil_append]
  rfl

end Tasks

/-! ## The two routes -/

section Routes

variable {first : Job} {after : FileTree} {label : Value} {output : Text} {printer : PrinterChoices}
  {compiling showing sending printing : List Text} {document : Text} {bytes : Bytes}

/-- Whether the settings of a job, if it names a file for them, are not in the file at a path. -/
def Job.LeavesOut (job : Job) (tree : FileTree) (path : Path) : Prop :=
  ∀ t, job.config = .text t → t ≠ [] → tree.walk (.ofText t) ≠ tree.walk path

/-- The settings of a job are not changed by a file that is written, if they are not in it. -/
theorem settings_put {path : Path} {folder : List Text} {name : Text}
    (hplace : FileTree.IsPlace tree path folder name) (bytes : Bytes)
    (hconfig : job.LeavesOut (tree.put (folder ++ [name]) bytes) path) :
    job.settings (tree.put (folder ++ [name]) bytes) = job.settings tree := by
  unfold Job.settings
  split
  · next c t hjob =>
    refine Settings.load_put hplace.at_folder hplace.at_place bytes fun hwalk => ?_
    have hwritten := FileTree.walk_put_self hplace bytes
    exact hconfig _ hjob (List.cons_ne_nil c t) (hwalk.trans hwritten.symm)
  · rfl

/-- **A document is sent from a file as it would have been printed**, if the settings are the same. -/
theorem run_send_eq_print
    (hsending : Job.read sending = .ok { job with task := .send (.text output) printer })
    (hprinting : Job.read printing = .ok { job with task := .print label printer })
    (hsettings : job.settings after = job.settings tree)
    (hread : after.readBytes (.ofText output) = .ok bytes)
    (hdocument : documentOf scene.now tree label = .ok document)
    (hbytes : Utf8.encode document = .ok bytes) :
    (run scene sending after).result = (run scene printing tree).result ∧
      (run scene sending after).trace = (run scene printing tree).trace := by
  have hafter : ({ job with task := .send (.text output) printer } : Job).settings after =
      job.settings tree := hsettings
  have hbefore : ({ job with task := .print label printer } : Job).settings tree =
      job.settings tree := rfl
  rw [run_eq hsending, run_eq hprinting, hafter, hbefore]
  cases job.settings tree with
  | error f =>
    have hsteady := isSteady_refuse .config f
    exact ⟨hsteady.result_eq after tree, hsteady.trace_eq after tree⟩
  | ok s =>
    have hlogs (task : Task) : ({ job with task } : Job).logSetup s = job.logSetup s := rfl
    dsimp only
    rw [hlogs (.send (.text output) printer), hlogs (.print label printer)]
    cases job.logSetup s with
    | error f => exact ⟨rfl, rfl⟩
    | ok logs =>
      dsimp only
      rw [carryOut_send hread, carryOut_print hdocument hbytes]
      have hsteady := isSteady_transmit scene logs (printer.plan s) bytes
      exact ⟨hsteady.result_eq after tree, hsteady.trace_eq after tree⟩

/-- **To compile a label and to send the file is to print the label.** After a label has been compiled
into a file, a run that sends the file does what a run that prints the label would have done before:
it ends in the same way, after the same lines and the same calls of the wire. And what is in the file
is what is shown where no file is given. -/
theorem send_compiled_eq_print
    (hcompiling : Job.read compiling = .ok { first with task := .compile label (.text output) })
    (hshowing : Job.read showing = .ok { first with task := .compile label .null })
    (hsending : Job.read sending = .ok { job with task := .send (.text output) printer })
    (hprinting : Job.read printing = .ok { job with task := .print label printer })
    (houtput : output ≠ [])
    (hdone : (run scene compiling tree).result = .ok 0)
    (hconfig : job.LeavesOut (run scene compiling tree).state (.ofText output)) :
    let after := (run scene compiling tree).state
    (run scene sending after).result = (run scene printing tree).result ∧
      (run scene sending after).trace = (run scene printing tree).trace ∧
      ∃ bytes document, after.readBytes (.ofText output) = .ok bytes ∧
        Utf8.decode bytes = .ok document ∧ (run scene showing tree).result = .ok 0 ∧
        Effect.output (run scene showing tree).trace = document ++ "\n" := by
  intro after
  obtain ⟨s, logs, hstarts⟩ := starts_of_result hcompiling hdone
  have hrun : run scene compiling tree =
      (Task.compile label (.text output)).carryOut scene logs s tree := run_of_starts hstarts
  obtain ⟨document, hdocument⟩ := documentOf_of_compile (hrun ▸ hdone)
  rw [carryOut_compile hdocument] at hrun
  obtain ⟨hresult, hstate⟩ := @publish_text scene tree logs document output houtput
  have hwritten : (tree.writeText (.ofText output) document).1 = .ok () := by
    rw [hrun, hresult] at hdone
    cases hwrite : (tree.writeText (.ofText output) document).1 with
    | error f => rw [hwrite] at hdone; cases hdone
    | ok _ => rfl
  obtain ⟨folder, name, bytes, hplace, hbytes, hput⟩ := FileTree.writeText_eq_ok hwritten
  have hafter : after = tree.put (folder ++ [name]) bytes := by
    rw [← hput, ← hstate, ← hrun]
  have hread : after.readBytes (.ofText output) = .ok bytes := by
    rw [hafter]
    exact FileTree.readBytes_put_self hplace bytes
  have hsettings : job.settings after = job.settings tree := by
    rw [hafter]
    exact settings_put hplace bytes (hafter ▸ hconfig)
  obtain ⟨hsame, htrace⟩ : (run scene sending after).result = (run scene printing tree).result ∧
      (run scene sending after).trace = (run scene printing tree).trace :=
    run_send_eq_print hsending hprinting hsettings hread hdocument hbytes
  have hshown : run scene showing tree = ⟨.ok 0, tree, [.printed document]⟩ := by
    have hshows : Starts tree showing { first with task := .compile label .null } s logs :=
      ⟨hshowing, hstarts.settings_eq, hstarts.logSetup_eq⟩
    rw [run_of_starts hshows]
    exact (carryOut_compile hdocument .null).trans (publish_null hbytes)
  refine ⟨hsame, htrace, bytes, document, hread, Utf8.decode_of_encode hbytes, ?_, ?_⟩
  · rw [hshown]
  · rw [hshown]
    exact List.append_nil _

/-- A label is compiled without settings, and then sent and printed with settings from a file. -/
theorem send_compiled_eq_print_with_settings :
    let scene : Scene := {
      now := ⟨⟨2024, 3, 1, by decide, by decide, by decide⟩, .midnight, none⟩
      stamp := "<time>", wire := {} }
    let file (t : String) : Node := .file ((Utf8.encode t).toOption.getD [])
    let tree : FileTree := [(["l.json"], file "\x7b\"due_time\": \"9:05\"\x7d"),
      (["c.json"], file "\x7b\"printer\": \x7b\"address\": \"10.0.0.5\"\x7d\x7d")]
    let compiling : List Text := ["compile", "--label", "l.json", "--output", "l.zpl"]
    let sending : List Text := ["--config", "c.json", "send", "--zpl", "l.zpl"]
    let printing : List Text := ["--config", "c.json", "print", "--label", "l.json"]
    let after := (run scene compiling tree).state
    (run scene compiling tree).result = .ok 0 ∧
      (run scene sending after).result = (run scene printing tree).result ∧
      (run scene sending after).trace = (run scene printing tree).trace := by
  intro scene file tree compiling sending printing after
  let printer : PrinterChoices := ⟨none, .null, .null, .null, false⟩
  let first : Job := ⟨.null, .null, false, .compile (.text "l.json") .null⟩
  let job : Job := ⟨.text "c.json", .null, false, .print (.text "l.json") printer⟩
  have hcompiling : Job.read compiling =
      .ok { first with task := .compile (.text "l.json") (.text "l.zpl") } := by rfl
  have hshowing : Job.read ["compile", "--label", "l.json"] =
      .ok { first with task := .compile (.text "l.json") .null } := by rfl
  have hsending : Job.read sending = .ok { job with task := .send (.text "l.zpl") printer } := by rfl
  have hprinting : Job.read printing =
      .ok { job with task := .print (.text "l.json") printer } := by rfl
  have hdone : (run scene compiling tree).result = .ok 0 := eq_ok_of_toOption (by decide +kernel)
  have hconfig : job.LeavesOut after (.ofText "l.zpl") := fun t ht _ hsame => by
    obtain rfl := Value.text.inj ht
    have hspots := congrArg Except.toOption hsame
    revert hspots
    decide +kernel
  obtain ⟨hresult, htrace, -⟩ :=
    send_compiled_eq_print hcompiling hshowing hsending hprinting (by decide) hdone hconfig
  exact ⟨hdone, hresult, htrace⟩

/-- An empty name is no file to compile into: the document is shown instead, all is well, and there is
nothing that could be sent. -/
theorem send_of_empty_output_ne_print :
    let scene : Scene := {
      now := ⟨⟨2024, 3, 1, by decide, by decide, by decide⟩, .midnight, none⟩
      stamp := "<time>", wire := {} }
    let tree : FileTree := [(["l.json"],
      .file ((Utf8.encode "\x7b\"due_time\": \"9:05\"\x7d").toOption.getD []))]
    let after := (run scene ["compile", "--label", "l.json", "--output", ""] tree).state
    (run scene ["compile", "--label", "l.json", "--output", ""] tree).result = .ok 0 ∧
      (run scene ["send", "--zpl", "", "--dry", "--address", "10.0.0.5"] after).result = .ok 2 ∧
      (run scene ["print", "--label", "l.json", "--dry", "--address", "10.0.0.5"] tree).result =
        .ok 0 := by
  intro scene tree after
  exact ⟨eq_ok_of_toOption (by decide +kernel), eq_ok_of_toOption (by decide +kernel),
    eq_ok_of_toOption (by decide +kernel)⟩

end Routes

end Program

end LabelPress
