import LabelPress.Proofs.Action
import LabelPress.Proofs.Session.Records
import LabelPress.Proofs.Session.Requests

/-!
# The report of a send

A send that ends with a delivery reports it: one record carries the endpoint and the outcome, and it
is the last thing that the send leaves (`exists_trace_eq`). No other record of the session carries
either, whichever way the send goes (`exists_records_eq`), so the outcomes in a log can be counted.
A link writes to the log as well; over a wire, none of what it writes counts as a report
(`isReport_linkRecords_of_wire`).
-/

namespace LabelPress

/-- Whether a record carries what belongs to the report of a delivery: an endpoint or an outcome. -/
def Log.Record.isReport (r : Log.Record) : Bool := !r.endpoint.isNull || !r.outcome.isNull

/-- Whether an event is none of a report. -/
def Event.IsPlain {κ : Type} : Event κ → Prop
  | .log r => r.isReport = false
  | _ => True

theorem Event.mem_logs {κ : Type} {trace : List (Event κ)} {r : Log.Record} :
    r ∈ logs trace ↔ .log r ∈ trace := by
  induction trace with
  | nil => simp [logs]
  | cons e trace ih => cases e <;> simp [ih]

@[simp] theorem Event.calls_map_call {κ : Type} (trace : List κ) :
    calls (trace.map (.call : κ → Event κ)) = trace := by
  induction trace with
  | nil => rfl
  | cons e trace ih => simp [ih]

/-- What is kept of the records of a trace in which the doings of the link stand as calls, if none of
the session's records is kept. -/
theorem Event.filter_logs_joined {κ : Type} {keep : Log.Record → Bool}
    {trace : List (Event (Event κ))} (h : ∀ r ∈ logs trace, keep r = false) :
    (logs (trace.map joined)).filter keep = (logs (calls trace)).filter keep := by
  induction trace with
  | nil => rfl
  | cons e trace ih =>
    cases e with
    | asked r => exact ih h
    | log r =>
      rw [logs_log_cons, List.forall_mem_cons] at h
      simpa [joined, h.1] using ih h.2
    | call e =>
      have := ih h
      cases e with
      | asked r => exact this
      | call c => exact this
      | log r => cases hr : keep r <;> simp [joined, hr, this]

/-- Whether an action leaves nothing of a report, wherever it begins. -/
abbrev Action.ReportsNothing {κ σ α : Type} (x : Action (Event κ) σ α) : Prop :=
  Leaves x Event.IsPlain

namespace Session

variable {κ σ : Type}

/-! ## The turns of a session report nothing -/

@[simp] theorem isReport_transition (p q : Phase) : (transition p q).isReport = false := rfl

theorem isReport_openTurn (link : Text) (answer : Except Fault Value) :
    ∀ r ∈ (openTurn link answer).records, r.isReport = false := by
  cases answer with
  | ok _ => exact List.forall_mem_nil _
  | error f =>
    cases hf : f.isInterrupt with
    | true => simp [openTurn, hf]
    | false =>
      simp only [openTurn, hf, Bool.false_eq_true, if_false, List.forall_mem_singleton]
      rfl

theorem isReport_writeTurn (link : Text) (total : Nat) (answer : Except Fault Value) :
    ∀ r ∈ (writeTurn link total answer).records, r.isReport = false := by
  cases answer with
  | error f =>
    cases hf : f.isInterrupt with
    | true => simp [writeTurn, hf]
    | false =>
      simp only [writeTurn, hf, Bool.false_eq_true, if_false, List.forall_mem_cons]
      exact ⟨rfl, rfl, List.forall_mem_nil _⟩
  | ok taken =>
    cases hp : isProgress taken with
    | error f => simp [writeTurn, hp]
    | ok progress =>
      cases progress with
      | true => simp [writeTurn, hp]
      | false => cases ht : takenText total taken <;> simp [writeTurn, hp, ht]

theorem isReport_settleRecords (link : Text) (phase : Phase) :
    ∀ r ∈ settleRecords link phase, r.isReport = false := by
  rw [settleRecords, List.forall_mem_append, List.forall_mem_singleton]
  refine ⟨?_, rfl⟩
  split <;> simp

theorem isReport_closeTurn (link : Text) (phase : Phase) (answer : Except Fault Unit) :
    ∀ r ∈ (closeTurn link phase answer).records, r.isReport = false := by
  cases answer with
  | ok _ => exact isReport_settleRecords link phase
  | error f =>
    cases hf : f.isInterrupt with
    | true => simp [closeTurn, hf]
    | false =>
      simp only [closeTurn, hf, Bool.false_eq_true, if_false, List.forall_mem_cons]
      exact ⟨rfl, isReport_settleRecords link phase⟩

/-! ## The report comes last -/

/-- What the report of a delivery to an endpoint says. -/
structure Reports (endpoint : Endpoint) (d : Delivery) (r : Log.Record) : Prop where
  endpoint_eq : r.endpoint = endpoint.describe
  outcome_eq : r.outcome = .text d.outcome.word
  message_eq : ∃ line, d.summary (some endpoint) = .ok line ∧ r.message =
    (if endpoint.describe.isSet then endpoint.describe.plain else "<empty>") ++ ": " ++ line
  level_eq : r.level = if d.ok then .info else .warning

/-- Such a record is told from all others by its outcome. -/
theorem Reports.isReport {endpoint : Endpoint} {d : Delivery} {r : Log.Record}
    (h : Reports endpoint d r) : r.isReport = true := by
  simp [Log.Record.isReport, h.outcome_eq, Value.isNull]

/-- **What is delivered is reported, and nothing else.** -/
theorem reportRecords_cases (endpoint : Endpoint) (r : Except Fault Delivery) :
    (∃ d report, reported endpoint r = .ok d ∧ reportRecords endpoint r = [report] ∧
      Reports endpoint d report) ∨
    ∃ f, reported endpoint r = .error f ∧ reportRecords endpoint r = [] := by
  cases h : reported endpoint r with
  | ok d =>
    obtain rfl := eq_of_reported h
    obtain ⟨line, hline, hsummary⟩ := exists_line_of_reported h
    refine .inl ⟨d, outcomeRecord endpoint d line, rfl, ?_, rfl, rfl, ⟨line, hsummary, rfl⟩, rfl⟩
    simp only [reportRecords, hline]
  | error f =>
    refine .inr ⟨f, rfl, ?_⟩
    cases r with
    | error g => rfl
    | ok d =>
      cases hline : reportText endpoint d with
      | error g => simp only [reportRecords, hline]
      | ok line => simp [reported, hline, Except.map] at h

/-- What is reported of a result is the same for all results that come to the same. -/
theorem reportRecords_congr {endpoint : Endpoint} {r r' : Except Fault Delivery}
    (h : reported endpoint r = reported endpoint r') :
    reportRecords endpoint r = reportRecords endpoint r' := by
  rcases reportRecords_cases endpoint r with ⟨d, _, hd, _⟩ | ⟨f, hf, hnone⟩
  · rw [eq_of_reported hd, eq_of_reported (h.symm.trans hd)]
  · rcases reportRecords_cases endpoint r' with ⟨d, _, hd, _⟩ | ⟨_, _, hnone'⟩
    · rw [h, hd] at hf
      cases hf
    · rw [hnone, hnone']

section send

variable (factory : Factory κ σ) (endpoint : Endpoint) (payload : Payload) (s : Session)

/-- **A send ends with its report**: the records of it are the end of the trace. -/
theorem exists_trace_eq :
    ∃ before r, (send factory endpoint payload s).result = reported endpoint r ∧
      (send factory endpoint payload s).trace = before ++ (reportRecords endpoint r).map .log := by
  cases hb : payload.encode with
  | error f =>
    rw [send_of_unencodable hb]
    exact ⟨[], .error f, rfl, rfl⟩
  | ok bytes =>
    cases h : (built factory endpoint s).result with
    | error f =>
      by_cases hf : f.kind = .address
      · rw [send_of_refusal hb h hf]
        refine ⟨.log (transition .idle .opening) :: ((built factory endpoint s).trace ++
          [.log (transition .opening .failed)]),
          .ok (undelivered .addressInvalid bytes.length f.message), rfl, ?_⟩
        simp only [List.cons_append, List.append_assoc, List.nil_append]
      · rw [send_of_fault hb h hf]
        exact ⟨_, .error f, rfl, (List.append_nil _).symm⟩
    | ok link =>
      rw [send_of_link hb h]
      refine ⟨.log (transition .idle .opening) :: ((built factory endpoint s).trace ++
        (deliver factory.transport bytes ⟨.opening, link⟩).trace),
        (deliver factory.transport bytes ⟨.opening, link⟩).result, rfl, ?_⟩
      simp only [List.cons_append, List.append_assoc]

/-- **Before its report a session reports nothing**, whichever way the send goes. -/
theorem exists_records_eq :
    ∃ before r, (send factory endpoint payload s).result = reported endpoint r ∧
      records factory endpoint payload s = before ++ reportRecords endpoint r ∧
      ∀ x ∈ before, x.isReport = false := by
  cases hb : payload.encode with
  | error f =>
    rw [records, send_of_unencodable hb, send_of_unencodable hb]
    exact ⟨[], .error f, rfl, rfl, List.forall_mem_nil _⟩
  | ok bytes =>
    cases h : (built factory endpoint s).result with
    | error f =>
      by_cases hf : f.kind = .address
      · rw [records_of_refusal hb h hf, send_of_refusal hb h hf]
        exact ⟨[transition .idle .opening, transition .opening .failed],
          .ok (undelivered .addressInvalid bytes.length f.message), rfl, rfl, by simp⟩
      · rw [records_of_fault hb h hf, send_of_fault hb h hf]
        exact ⟨[transition .idle .opening], .error f, rfl, rfl, by simp⟩
    | ok link =>
      rcases opening_cases (factory.transport.open link).result with ho | ⟨ho, hf⟩ | ⟨f, ho, hf⟩
      · let written := factory.transport.write bytes (factory.transport.open link).state
        let turn :=
          writeTurn (factory.transport.view written.state).describe bytes.length written.result
        let closed := factory.transport.close written.state
        let last := closeTurn (factory.transport.view closed.state).describe turn.phase closed.result
        rw [records_of_open hb h ho, send_of_link hb h]
        simp only [deliver_of_open bytes ho, writeAndClose_eq]
        refine ⟨transition .idle .opening :: transition .opening .open ::
          transition .open .writing :: (turn.records ++ last.records),
          last.result.bind fun _ => turn.result, rfl, ?_, ?_⟩
        · simp only [List.cons_append, List.append_assoc, turn, last, closed, written]
        · simp only [List.forall_mem_cons, List.forall_mem_append]
          exact ⟨rfl, rfl, rfl, isReport_writeTurn _ _ _, isReport_closeTurn _ _ _⟩
      · let opened := factory.transport.open link
        let turn := openTurn (factory.transport.view opened.state).describe opened.result
        rw [records_of_closed hb h ho hf, send_of_link hb h]
        simp only [deliver_of_closed bytes ho hf]
        refine ⟨transition .idle .opening :: (turn.records ++ [transition .opening .failed]),
          .ok (undelivered .connectionRefused bytes.length
            (openFailure (factory.transport.view (openedLink factory.transport link)))), rfl, ?_, ?_⟩
        · simp only [List.cons_append, List.append_assoc, List.nil_append, turn, opened]
        · simp only [List.forall_mem_cons, List.forall_mem_append]
          exact ⟨rfl, isReport_openTurn _ _, rfl, List.forall_mem_nil _⟩
      · rw [records_of_interrupt hb h ho hf, send_of_link hb h]
        simp only [deliver_of_interrupt bytes ho hf]
        exact ⟨[transition .idle .opening], .error f, rfl, rfl, by simp⟩

/-- The report of a send is the end of its log as well, and everything else there that counts as a
report comes from the link. -/
theorem exists_logs_eq :
    ∃ before rest r, (send factory endpoint payload s).result = reported endpoint r ∧
      records factory endpoint payload s = before ++ reportRecords endpoint r ∧
      (∀ x ∈ before, x.isReport = false) ∧
      Event.logs (send factory endpoint payload s).trace = rest ++ reportRecords endpoint r ∧
      rest.filter Log.Record.isReport =
        (linkRecords factory endpoint payload s).filter Log.Record.isReport := by
  obtain ⟨events, r, hr, htrace⟩ := exists_trace_eq factory.apart endpoint payload s
  obtain ⟨before, r', hr', hrecords, hplain⟩ := exists_records_eq factory endpoint payload s
  have hresult : (send factory.apart endpoint payload s).result =
      (send factory endpoint payload s).result :=
    congrArg Run.result (send_apart factory endpoint payload s)
  have hreport : reportRecords endpoint r = reportRecords endpoint r' :=
    reportRecords_congr (by rw [← hr, hresult, hr'])
  -- The two ways to cut the records leave the same before the report.
  have hbefore : Event.logs events = before := by
    rw [records, htrace, hreport, Event.logs_append, Event.logs_map_log] at hrecords
    exact List.append_cancel_right hrecords
  refine ⟨before, Event.logs (events.map Event.joined), r', hr', hrecords, hplain, ?_, ?_⟩
  · rw [← send_apart, Run.joined, htrace, hreport]
    simp
  · rw [Event.filter_logs_joined (by rwa [hbefore]), linkRecords, htrace]
    simp

end send

end Session

/-! ## Links over a wire report nothing -/

namespace Line

theorem reportsNothing_exchange (call : WireCall) (socket : SocketId) (fault : Option Fault) :
    Action.ReportsNothing (exchange call socket fault) := by
  refine .bind (.emit trivial) fun _ => ?_
  cases fault with
  | none => exact .pure ()
  | some f => exact .raise f

theorem reportsNothing_issue (call : WireCall) (fault : Option Fault) :
    Action.ReportsNothing (issue call fault) :=
  .bind .get fun _ => .bind (reportsNothing_exchange _ _ _) fun _ => .bind (.modify _) fun _ => .pure _

variable (wire : Wire)

theorem reportsNothing_connect (timeout : Value) : Action.ReportsNothing (connect wire timeout) := by
  refine .bind .get fun line => ?_
  split
  · exact .bind (reportsNothing_issue _ _) fun _ => .modify _
  · split
    · exact .raise _
    · refine .bind (reportsNothing_issue _ _) fun _ => ?_
      refine .bind (reportsNothing_exchange _ _ _) fun _ => ?_
      refine .bind (.attempt (reportsNothing_exchange _ _ _)) fun r => ?_
      cases r with
      | ok _ => exact .modify _
      | error f =>
        dsimp only
        split
        · exact .bind (reportsNothing_exchange _ _ _) fun _ => .raise f
        · exact .raise f

theorem reportsNothing_transmit (bytes : Bytes) : Action.ReportsNothing (transmit wire bytes) := by
  refine .bind .get fun line => ?_
  split
  · exact .raise _
  · exact .bind (reportsNothing_exchange _ _ _) fun _ => .pure _

theorem reportsNothing_disconnect : Action.ReportsNothing (disconnect wire) := by
  have hclose (socket : SocketId) : Action.ReportsNothing (do
      exchange .close socket wire.close
      Action.modify fun line => { line with socket := none }) :=
    .bind (reportsNothing_exchange _ _ _) fun _ => .modify _
  refine .bind .get fun line => ?_
  split
  · exact .pure _
  · split
    · refine .bind (.attempt (reportsNothing_exchange _ _ _)) fun r => ?_
      cases r with
      | ok _ => exact hclose _
      | error f =>
        dsimp only
        split
        · exact .bind (.raise f) fun _ => hclose _
        · exact hclose _
    · exact hclose _

end Line

namespace Link

variable {κ σ : Type} {carrier : Carrier κ σ}

/-- A link logs why it could not be opened, which is no report. -/
theorem reportsNothing_connect (h : ∀ timeout, Action.ReportsNothing (carrier.connect timeout)) :
    Action.ReportsNothing (connect carrier) := by
  refine .bind .get fun link => ?_
  split
  · exact .bind (.modify _) fun _ => .pure _
  · refine .bind (.attempt (.zoom _ _ (h _))) fun r => ?_
    cases r with
    | ok _ => exact .bind (.modify _) fun _ => .pure _
    | error f =>
      dsimp only
      split
      · exact .bind .get fun _ => .bind (.emit rfl) fun _ => .bind (.modify _) fun _ => .pure _
      · exact .raise f

theorem reportsNothing_write {bytes : Bytes} (h : Action.ReportsNothing (carrier.transmit bytes)) :
    Action.ReportsNothing (write carrier bytes) := by
  refine .bind .get fun link => ?_
  split
  · exact .raise _
  · split
    · exact .bind (.modify _) fun _ => .pure _
    · exact .zoom _ _ h

theorem reportsNothing_close (h : Action.ReportsNothing carrier.disconnect) :
    Action.ReportsNothing (close carrier) := by
  refine .bind .get fun link => ?_
  split
  · exact .pure _
  · refine .bind (.modify _) fun _ => ?_
    split
    · exact .pure _
    · exact .zoom _ _ h

end Link

namespace Session

section send

variable {κ σ : Type} {factory : Factory κ σ} {endpoint : Endpoint} {payload : Payload} {s : Session}

/-- Everything that a link does in a send is left by its building or by one of its operations. -/
theorem forall_linkEvents {P : Event κ → Prop} (hbuilt : ∀ e ∈ (built factory endpoint s).trace, P e)
    (hopen : Action.Leaves factory.transport.open P)
    (hwrite : ∀ bytes, Action.Leaves (factory.transport.write bytes) P)
    (hclose : Action.Leaves factory.transport.close P) :
    ∀ e ∈ Event.calls (send factory.apart endpoint payload s).trace, P e := by
  cases hb : payload.encode with
  | error f => simp [send_of_unencodable hb]
  | ok bytes =>
    rw [calls_send hb, List.forall_mem_append, built_apart]
    refine ⟨by simpa using hbuilt, ?_⟩
    cases (built factory endpoint s).result with
    | error f => exact List.forall_mem_nil _
    | ok link =>
      have hopened := hopen link
      have hwritten := hwrite bytes (factory.transport.open link).state
      have hclosed := hclose (factory.transport.write bytes (factory.transport.open link).state).state
      dsimp only
      rw [calls_conversation, List.forall_mem_append]
      refine ⟨by simpa using hopened, ?_⟩
      split
      · rw [List.forall_mem_append]
        exact ⟨by simpa using hwritten, by simpa using hclosed⟩
      · exact List.forall_mem_nil _

end send

/-- **A link over a wire leaves no report.** -/
theorem isReport_linkRecords_of_wire (wire : Wire) (endpoint : Endpoint) (payload : Payload)
    (s : Session) : ∀ r ∈ linkRecords wire.factory endpoint payload s, r.isReport = false := by
  have hplain : ∀ e ∈ Event.calls (send wire.factory.apart endpoint payload s).trace, Event.IsPlain e :=
    forall_linkEvents (Action.Leaves.ofExcept _ ())
      (Link.reportsNothing_connect (Line.reportsNothing_connect wire))
      (fun bytes => Link.reportsNothing_write (Line.reportsNothing_transmit wire bytes))
      (Link.reportsNothing_close (Line.reportsNothing_disconnect wire))
  intro r hr
  exact hplain (.log r) (Event.mem_logs.1 hr)

section send

variable {κ σ : Type} (factory : Factory κ σ) (endpoint : Endpoint) (payload : Payload) (s : Session)

/-- **One report for each delivery.** A send that gives a delivery leaves one report of it, as the
last of the session's records and of the whole log; one that ends with a fault leaves none. Whatever
else in the log carries an endpoint or an outcome comes from the link, and a link over a wire leaves
no such record. -/
theorem one_report_of_send :
    (∀ d, (send factory endpoint payload s).result = .ok d → ∃ r, Reports endpoint d r ∧
      (records factory endpoint payload s).filter Log.Record.isReport = [r] ∧
      (records factory endpoint payload s).getLast? = some r ∧
      (Event.logs (send factory endpoint payload s).trace).getLast? = some r) ∧
    (∀ f, (send factory endpoint payload s).result = .error f →
      (records factory endpoint payload s).filter Log.Record.isReport = []) ∧
    (Event.logs (send factory endpoint payload s).trace).filter Log.Record.isReport =
      (linkRecords factory endpoint payload s).filter Log.Record.isReport ++
        (records factory endpoint payload s).filter Log.Record.isReport ∧
    ∀ wire : Wire, (linkRecords wire.factory endpoint payload s).filter Log.Record.isReport = [] := by
  obtain ⟨before, rest, r, hresult, hrecords, hplain, hlogs, hrest⟩ :=
    exists_logs_eq factory endpoint payload s
  have hown : (records factory endpoint payload s).filter Log.Record.isReport =
      (reportRecords endpoint r).filter Log.Record.isReport := by
    simpa [hrecords] using hplain
  refine ⟨fun d hd => ?_, fun f hf => ?_, ?_, fun wire => ?_⟩
  · rcases reportRecords_cases endpoint r with ⟨d', report, hd', hone, hreport⟩ | ⟨f, hf, _⟩
    · obtain rfl : d' = d := Except.ok.inj (hd'.symm.trans (hresult.symm.trans hd))
      refine ⟨report, hreport, ?_, ?_, ?_⟩
      · simp [hown, hone, hreport.isReport]
      · simp [hrecords, hone]
      · simp [hlogs, hone]
    · rw [hresult, hf] at hd
      cases hd
  · rcases reportRecords_cases endpoint r with ⟨d, _, hd, _⟩ | ⟨_, _, hnone⟩
    · rw [hresult, hd] at hf
      cases hf
    · rw [hown, hnone, List.filter_nil]
  · rw [hlogs, List.filter_append, hrest, hown]
  · simpa using isReport_linkRecords_of_wire wire endpoint payload s

end send

/-- A connection that is reset is reported with a warning, after the record in which the link says
why; a write that is interrupted is not reported. -/
theorem one_report_of_reset_none_of_interrupt :
    let endpoint : Endpoint := ⟨.kind .bluetooth, .text "AC:3F:A4:12:34:56", .null⟩
    let wire : Wire := { connect := some ⟨.connectionReset, "reset"⟩ }
    let script : Script := { writeFault := some ⟨.interrupt, []⟩ }
    let s : Session := { timeout := .int 5, dryRun := false }
    let run := send wire.factory endpoint (.text "^XA") s
    (∃ d r, run.result = .ok d ∧ Reports endpoint d r ∧ r.level = .warning ∧
      r.message = "AC:3F:A4:12:34:56: Couldn't open bluetooth connection: reset" ∧
      (Event.logs run.trace).length = 4 ∧ (Event.logs run.trace).filter Log.Record.isReport = [r] ∧
      (Event.logs run.trace).getLast? = some r) ∧
    (send script.factory endpoint (.text "^XA") s).result = .error ⟨.interrupt, []⟩ ∧
    (records script.factory endpoint (.text "^XA") s).filter Log.Record.isReport = [] := by
  intro endpoint wire script s run
  have hrun : run.result = .ok (undelivered .connectionRefused 3 "reset") := by rfl
  have hinterrupt :
      (send script.factory endpoint (.text "^XA") s).result = .error ⟨.interrupt, []⟩ := by rfl
  obtain ⟨hone, -, hall, hwire⟩ := one_report_of_send wire.factory endpoint (.text "^XA") s
  obtain ⟨r, hr, hown, -, hlast⟩ := hone _ hrun
  have hlog : (Event.logs run.trace).getLast? = some (outcomeRecord endpoint
      (undelivered .connectionRefused 3 "reset") "Couldn't open bluetooth connection: reset") := by rfl
  refine ⟨⟨_, r, hrun, hr, hr.level_eq, ?_, by rfl, ?_, hlast⟩, hinterrupt, ?_⟩
  · obtain rfl := Option.some.inj (hlog.symm.trans hlast)
    rfl
  · exact hall.trans (by rw [hwire wire, hown, List.nil_append])
  · exact (one_report_of_send script.factory endpoint (.text "^XA") s).2.1 _ hinterrupt

end Session

end LabelPress
