import LabelPress.Proofs.Program.Detour
import LabelPress.Proofs.Program.Plan
import LabelPress.Proofs.Session.Summary

/-!
# Runs that send

A run that sends a document does so by the plan of its three sources, in a session of its own. It tells
of it in lines: one before the session, the document after it if that was a dry run that came to write
it, and the summary of the delivery (`TellsOf`). Only lines that have bytes can be printed. The first
names the endpoint and the last the reason of a failure, and either may hold half a surrogate pair; the
run ends with a fault there, before the session in the one case and after it in the other.
-/

namespace LabelPress

namespace Program

variable {scene : Scene} {tree : FileTree} {words : List Text} {job : Job} {s : Settings}
  {logs : Log.Setup} {plan : Plan} {document : Bytes} {printer : PrinterChoices}

/-! ## Lines -/

theorem say_of_isEncodable (tree : FileTree) {line : Text} (h : line.IsEncodable) :
    say line tree = ⟨.ok (), tree, [.printed line]⟩ := by
  obtain ⟨bytes, hbytes⟩ := Utf8.exists_encode_iff.2 h
  simp only [say, Action.bind_apply, Action.ofExcept_apply, hbytes]
  rfl

theorem say_of_not_isEncodable (tree : FileTree) {line : Text} (h : ¬ line.IsEncodable) :
    ∃ f, say line tree = ⟨.error f, tree, []⟩ := by
  cases hbytes : Utf8.encode line with
  | ok bytes => exact absurd (Utf8.exists_encode_iff.1 ⟨bytes, hbytes⟩) h
  | error p =>
    refine ⟨Fault.ofEncode p, ?_⟩
    simp only [say, Action.bind_apply, Action.ofExcept_apply, hbytes]
    rfl

theorem sayAll_of_isEncodable {lines : List Text} (h : ∀ line ∈ lines, line.IsEncodable) :
    sayAll lines tree = ⟨.ok (), tree, lines.map .printed⟩ := by
  induction lines with
  | nil => rfl
  | cons line lines ih =>
    obtain ⟨hline, hlines⟩ := List.forall_mem_cons.1 h
    simp only [sayAll, Action.bind_apply, say_of_isEncodable tree hline, ih hlines]
    rfl

namespace Effect

@[simp] theorem output_cons_printed (line : Text) (trace : List Effect) :
    output (.printed line :: trace) = line ++ "\n" ++ output trace := rfl

@[simp] theorem exchanges_cons_printed (line : Text) (trace : List Effect) :
    exchanges (.printed line :: trace) = exchanges trace := rfl

/-- What happens in a session prints nothing, -/
@[simp] theorem output_effects (trace : List (Event Exchange)) :
    output (trace.flatMap (effects scene logs)) = [] := by
  induction trace with
  | nil => rfl
  | cons e trace ih =>
    rw [List.flatMap_cons, output_append, ih]
    cases e <;> rfl

/-- and its calls are those of the run. -/
@[simp] theorem exchanges_effects (trace : List (Event Exchange)) :
    exchanges (trace.flatMap (effects scene logs)) = Event.calls trace := by
  induction trace with
  | nil => rfl
  | cons e trace ih =>
    rw [List.flatMap_cons, exchanges_append, ih]
    cases e <;> rfl

end Effect

/-! ## Telling of a send -/

/-- The line before a session. -/
def Plan.opening (plan : Plan) : Text :=
  "Starting print via " ++ plan.kind.word ++ " to " ++ plan.endpoint.title ++ "..."

/-- A session of its own that sends a document by a plan. -/
def Plan.send (plan : Plan) (wire : Wire) (document : Bytes) :
    Run (Event Exchange) Session Delivery :=
  Session.sendOnce plan.timeout plan.dryRun wire.factory plan.endpoint (.bytes document)

/-- What is printed after it: the document, in a dry run that comes to write it. -/
def Plan.shown (plan : Plan) (sent : Run (Event Exchange) Session Delivery) (document : Bytes) :
    Text :=
  .when (plan.dryRun ∧ Request.write document ∈ Event.requests sent.trace)
    (Utf8.decodeReplacing document ++ "\n")

/-- A run tells of a send: it makes its calls and no others, it ends with zero if the document was
sent and with one if not, and it prints the line before the session, what is shown, and the summary. -/
structure TellsOf (done : Run Effect FileTree Nat) (plan : Plan)
    (sent : Run (Event Exchange) Session Delivery) (document : Bytes) (d : Delivery)
    (summary : Text) : Prop where
  result : done.result = .ok (if d.outcome = .sent then 0 else 1)
  exchanges : Effect.exchanges done.trace = Event.calls sent.trace
  output : Effect.output done.trace =
    plan.opening ++ "\n" ++ plan.shown sent document ++ summary ++ "\n"

/-- Nothing is sent if the first line has no bytes. -/
theorem transmit_of_not_isEncodable (scene : Scene) (logs : Log.Setup) (document : Bytes)
    (tree : FileTree) (h : ¬ plan.opening.IsEncodable) :
    ∃ f, transmit scene logs plan document tree = ⟨.error f, tree, []⟩ := by
  obtain ⟨f, hsay⟩ := say_of_not_isEncodable tree h
  refine ⟨f, ?_⟩
  rw [Plan.opening] at hsay
  simp only [transmit, Action.bind_apply, hsay]

/-- The lines that sending shows after the session. -/
theorem sayAll_shown (sent : List Bytes) :
    sayAll (sent.map Utf8.decodeReplacing) tree =
      ⟨.ok (), tree, (sent.map Utf8.decodeReplacing).map .printed⟩ := by
  refine sayAll_of_isEncodable fun line hline => ?_
  obtain ⟨bytes, -, rfl⟩ := List.mem_map.1 hline
  exact Utf8.isEncodable_decodeReplacing bytes

/-- **What sending comes to** once it has begun: the calls of the session, and then the lines. -/
theorem transmit_eq (logs : Log.Setup) (tree : FileTree) {d : Delivery} {summary : Text}
    (hopening : plan.opening.IsEncodable)
    (hd : (plan.send scene.wire document).result = .ok d)
    (hsummary : d.summary (some plan.endpoint) = .ok summary) :
    let sent := plan.send scene.wire document
    let kept := if plan.dryRun then sent.state.kept else []
    let last := say summary tree
    transmit scene logs plan document tree =
      ⟨last.result.map fun _ => if d.outcome = .sent then 0 else 1, tree,
        .printed plan.opening :: (sent.trace.flatMap (effects scene logs) ++
          ((kept.map Utf8.decodeReplacing).map .printed ++ last.trace))⟩ := by
  intro sent kept last
  have hsay := say_of_isEncodable tree hopening
  have hdeliver : deliver scene logs plan document tree =
      ⟨.ok (d, sent.state.link), tree, sent.trace.flatMap (effects scene logs)⟩ := by
    have hmap : sent.result.map (fun d => (d, sent.state.link)) = .ok (d, sent.state.link) := by
      rw [hd]
      rfl
    rw [← hmap]
    rfl
  -- What the run ends with is the same whether or not it has shown the document before.
  have hend : (do
        say (← Action.ofExcept (d.summary (some plan.endpoint)))
        return if d.ok then 0 else 1 : Doing Nat) tree =
      ⟨last.result.map fun _ => if d.outcome = .sent then 0 else 1, tree, last.trace⟩ := by
    have hstate : last.state = tree := (isSteady_say summary).state_eq tree
    rw [hsummary, Action.bind_apply, Action.ofExcept_apply]
    dsimp only
    rw [Action.bind_pure_apply, List.nil_append, hstate]
    simp only [Delivery.ok, decide_eq_true_eq]
    rfl
  rw [Plan.opening] at hsay
  simp only [transmit, Action.bind_apply, hsay, hdeliver]
  cases hdry : plan.dryRun with
  | true =>
    have hkept : kept = (sent.state.link.map LinkView.sent).getD [] := if_pos hdry
    rw [if_pos rfl, Action.bind_apply, sayAll_shown, hkept]
    dsimp only
    rw [hend]
    rfl
  | false =>
    have hkept : kept = [] := if_neg (by simp [hdry])
    rw [if_neg Bool.false_ne_true, hkept, hend]
    rfl

section Telling

variable {d : Delivery} {summary : Text}

theorem exchanges_map_printed (lines : List Text) :
    Effect.exchanges (lines.map .printed) = [] := by
  induction lines with
  | nil => rfl
  | cons line lines ih => exact ih

/-- The calls of the session are made, unless there is no session. -/
theorem exchanges_transmit (logs : Log.Setup) (tree : FileTree)
    (hd : (plan.send scene.wire document).result = .ok d)
    (hsummary : d.summary (some plan.endpoint) = .ok summary) :
    Effect.exchanges (transmit scene logs plan document tree).trace =
      if plan.opening.IsEncodable then Event.calls (plan.send scene.wire document).trace else [] := by
  by_cases hopening : plan.opening.IsEncodable
  · have hlast : Effect.exchanges (say summary tree).trace = [] := by
      by_cases hs : summary.IsEncodable
      · rw [say_of_isEncodable tree hs]
        rfl
      · obtain ⟨f, hsay⟩ := say_of_not_isEncodable tree hs
        rw [hsay]
        rfl
    simp only [transmit_eq logs tree hopening hd hsummary, if_pos hopening,
      Effect.exchanges_cons_printed, Effect.exchanges_append, Effect.exchanges_effects,
      exchanges_map_printed, hlast, List.append_nil]
  · obtain ⟨f, hfault⟩ := transmit_of_not_isEncodable scene logs document tree hopening
    rw [hfault, if_neg hopening]
    rfl

/-- What is printed of the document is what is to be shown. -/
theorem output_shown {sent : Run (Event Exchange) Session Delivery} {kept : List Bytes}
    (hkept : plan.dryRun = true →
      kept = if Request.write document ∈ Event.requests sent.trace then [document] else []) :
    Effect.output (((if plan.dryRun then kept else []).map Utf8.decodeReplacing).map .printed) =
      plan.shown sent document := by
  unfold Plan.shown Text.when
  cases hdry : plan.dryRun with
  | false => rfl
  | true =>
    rw [hkept hdry]
    by_cases hwrite : Request.write document ∈ Event.requests sent.trace
    · simp [hwrite, Effect.output]
    · simp [hwrite, Effect.output]

/-- **A run tells of its send if both lines have bytes**, and only then. -/
theorem tellsOf_transmit_iff (hd : (plan.send scene.wire document).result = .ok d)
    (hsummary : d.summary (some plan.endpoint) = .ok summary)
    (hkept : plan.dryRun = true → (plan.send scene.wire document).state.kept =
      if Request.write document ∈ Event.requests (plan.send scene.wire document).trace then
        [document]
      else []) :
    TellsOf (transmit scene logs plan document tree) plan (plan.send scene.wire document) document
        d summary ↔ plan.opening.IsEncodable ∧ summary.IsEncodable := by
  by_cases hopening : plan.opening.IsEncodable
  · have hexchanges := exchanges_transmit logs tree hd hsummary
    rw [if_pos hopening] at hexchanges
    have hrun := transmit_eq logs tree hopening hd hsummary
    by_cases hs : summary.IsEncodable
    · refine iff_of_true ⟨?_, hexchanges, ?_⟩ ⟨hopening, hs⟩
      · rw [hrun, say_of_isEncodable tree hs]
        rfl
      · simp only [hrun, say_of_isEncodable tree hs, Effect.output_cons_printed,
          Effect.output_append, Effect.output_effects, output_shown hkept]
        simp [Effect.output]
    · obtain ⟨f, hsay⟩ := say_of_not_isEncodable tree hs
      refine iff_of_false (fun htells => ?_) (fun h => hs h.2)
      have hresult := htells.result
      rw [hrun, hsay] at hresult
      cases hresult
  · obtain ⟨f, hfault⟩ := transmit_of_not_isEncodable scene logs document tree hopening
    refine iff_of_false (fun htells => ?_) (fun h => hopening h.1)
    have hresult := htells.result
    rw [hfault] at hresult
    cases hresult

end Telling

/-! ## Runs -/

/-- The document that a task comes to send, and what it says on the printer. -/
inductive Task.Sends (now : Moment) (tree : FileTree) : Task → PrinterChoices → Bytes → Prop
  /-- The bytes of a file. -/
  | send {zpl : Value} {printer : PrinterChoices} {path : Path} {document : Bytes} :
      readPath zpl = .ok path → tree.readBytes path = .ok document →
      Sends now tree (.send zpl printer) printer document
  /-- The bytes of the document of a label. -/
  | print {label : Value} {printer : PrinterChoices} {text : Text} {document : Bytes} :
      documentOf now tree label = .ok text → Utf8.encode text = .ok document →
      Sends now tree (.print label printer) printer document

namespace Task.Sends

variable {task : Task}

theorem printer?_eq {now : Moment} (h : task.Sends now tree printer document) :
    task.printer? = some printer := by
  cases h <;> rfl

/-- Such a task comes to sending it by its plan. -/
theorem carryOut_eq (h : task.Sends scene.now tree printer document) :
    task.carryOut scene logs s tree = transmit scene logs (printer.plan s) document tree := by
  cases h with
  | @send zpl _ path _ hpath hread =>
    cases zpl with
    | text t =>
      obtain rfl := Except.ok.inj hpath
      exact carryOut_send hread
    | _ => cases hpath
  | print hdocument hbytes => exact carryOut_print hdocument hbytes

end Task.Sends

/-- **A run that sends does what a session with its plan does**, and tells of it, unless the line
before the session or the summary holds half a surrogate pair. It makes the calls of that session if
the former does not, and none if it does; in a dry run there are none. No file is changed. -/
theorem sends_by_merged_plan_iff (h : Starts tree words job s logs)
    (hsends : job.task.Sends scene.now tree printer document)
    (hw : scene.wire.IsUninterrupted) :
    let plan := printer.merged (job.printerTable tree)
    let sent := plan.send scene.wire document
    let done := run scene words tree
    ∃ d summary, sent.result = .ok d ∧ d.summary (some plan.endpoint) = .ok summary ∧
      (TellsOf done plan sent document d summary ↔
        plan.opening.IsEncodable ∧ summary.IsEncodable) ∧
      Effect.exchanges done.trace =
        (if plan.opening.IsEncodable then Event.calls sent.trace else []) ∧
      (plan.dryRun = true → Event.calls sent.trace = []) ∧ done.state = tree := by
  intro plan sent done
  -- The run looks at the settings, which know nothing of the three sources.
  have hplan : printer.plan s = plan := plan_eq_merged h.settings_eq printer
  have hdone : done = transmit scene logs plan document tree := by
    rw [← hplan, ← hsends.carryOut_eq]
    exact run_of_starts h
  have hport : plan.endpoint.port.isShowable = true := by
    rw [← hplan]
    exact isShowable_port_plan h.read_eq h.settings_eq hsends.printer?_eq
  have hb : (Payload.bytes document).encode = .ok document := rfl
  have hkind : plan.endpoint.kind = .kind plan.kind := rfl
  obtain ⟨d, hd⟩ : ∃ d, sent.result = .ok d := Session.exists_delivery hb hw hkind hport _
  obtain ⟨summary, hsummary⟩ := Session.summary_of_send hb hd
  have hdry (h : plan.dryRun = true) : Event.calls sent.trace = [] ∧
      sent.state.kept =
        if Request.write document ∈ Event.requests sent.trace then [document] else [] :=
    Session.kept_of_dry_send hb scene.wire hkind hport h
  have hstate : done.state = tree := by
    rw [hdone]
    exact (isSteady_transmit scene logs plan document).state_eq tree
  rw [hdone] at hstate ⊢
  exact ⟨d, summary, hd, hsummary, tellsOf_transmit_iff hd hsummary fun h => (hdry h).2,
    exchanges_transmit logs tree hd hsummary, fun h => (hdry h).1, hstate⟩

/-- A dry run with the address of a file, and a port of its own. -/
theorem sends_by_merged_plan_of_config :
    let scene : Scene := {
      now := ⟨⟨2024, 3, 1, by decide, by decide, by decide⟩, .midnight, none⟩
      stamp := "<time>", wire := { connect := some ⟨.connectionRefused, "refused"⟩ } }
    let config : Text :=
      "\x7b\"printer\": \x7b\"address\": \"10.0.0.5\", \"port\": 80, \"dry_run\": true\x7d\x7d"
    let tree : FileTree := [(["l.zpl"], .file [0x5E, 0x58, 0x41]),
      (["c.json"], .file ((Utf8.encode config).toOption.getD []))]
    let words : List Text := ["--config", "c.json", "send", "--zpl", "l.zpl", "--port", "9101"]
    let done := run scene words tree
    done.result = .ok 0 ∧ Effect.exchanges done.trace = [] ∧ done.state = tree ∧
      Effect.output done.trace =
        "Starting print via network to 10.0.0.5:9101...\n^XA\nSent 3/3 bytes\n" := by
  intro scene config tree words done
  let printer : PrinterChoices := ⟨none, .null, .int 9101, .null, false⟩
  let job : Job := ⟨.text "c.json", .null, false, .send (.text "l.zpl") printer⟩
  let plan := printer.merged (job.printerTable tree)
  let sent := plan.send scene.wire [0x5E, 0x58, 0x41]
  have hzero : done.result = .ok 0 := eq_ok_of_toOption (by decide +kernel)
  have hread : Job.read words = .ok job := by rfl
  obtain ⟨s, logs, hstarts⟩ := starts_of_result hread hzero
  have hsends : job.task.Sends scene.now tree printer [0x5E, 0x58, 0x41] := .send rfl rfl
  have hw : scene.wire.IsUninterrupted := by
    constructor <;> simp [scene, Fault.IsOrdinary, Fault.isInterrupt]
  have hopening : plan.opening.IsEncodable := by decide +kernel
  have htold : (sent.result.bind fun d => d.summary (some plan.endpoint)) =
      .ok "Sent 3/3 bytes" := eq_ok_of_toOption (by decide +kernel)
  obtain ⟨d, summary, hd, hsummary, htells, -, hdry, hstate⟩ :=
    sends_by_merged_plan_iff hstarts hsends hw
  have hnone : Event.calls sent.trace = [] := hdry (by decide +kernel)
  obtain rfl : Text.ofString "Sent 3/3 bytes" = summary := by
    rw [show sent.result = .ok d from hd] at htold
    exact Except.ok.inj (htold.symm.trans hsummary)
  have htells := htells.2 ⟨hopening, by decide⟩
  refine ⟨hzero, htells.exchanges.trans hnone, hstate, htells.output.trans ?_⟩
  decide +kernel

/-- **A run ends before the session for an address with half a surrogate pair**, although the session
would have come to a delivery that could have been told: the address is refused. -/
theorem run_ends_for_half_in_address :
    let scene : Scene := {
      now := ⟨⟨2024, 3, 1, by decide, by decide, by decide⟩, .midnight, none⟩
      stamp := "<time>", wire := {} }
    let tree : FileTree := [(["l.zpl"], .file [0x5E, 0x58, 0x41])]
    let words : List Text := ["send", "--zpl", "l.zpl", "--address", [.lone 0x480]]
    let printer : PrinterChoices := ⟨none, .text [.lone 0x480], .null, .null, false⟩
    let job : Job := ⟨.null, .null, false, .send (.text "l.zpl") printer⟩
    let plan := printer.merged (job.printerTable tree)
    let sent := plan.send scene.wire [0x5E, 0x58, 0x41]
    let done := run scene words tree
    Starts tree words job {} ⟨20, false⟩ ∧
      job.task.Sends scene.now tree printer [0x5E, 0x58, 0x41] ∧
      scene.wire.IsUninterrupted ∧
      sent.result.toOption.map Delivery.outcome = some .addressInvalid ∧
      done.result.toOption = none ∧ Effect.output done.trace = [] ∧
      ∀ d summary, ¬ TellsOf done plan sent [0x5E, 0x58, 0x41] d summary := by
  intro scene tree words printer job plan sent done
  have hw : scene.wire.IsUninterrupted := by
    constructor <;> simp [scene]
  have hnone : done.result.toOption = none := by decide +kernel
  refine ⟨⟨by rfl, by rfl, by rfl⟩, .send rfl rfl, hw, by decide +kernel, hnone,
    by decide +kernel, fun d summary htells => ?_⟩
  rw [htells.result] at hnone
  cases hnone

end Program

end LabelPress
