import LabelPress.Link.Rehearsal
import LabelPress.Proofs.Link.Regular
import LabelPress.Proofs.Session.Phases

/-!
# What a failing close changes

Two means of transport that differ in nothing but their closing, of which one gets through and the
other raises a fault, lead to the same delivery or fault, and leave the session in the same phase.
What the second adds to the log is one warning. The traces of the two sends agree before and after
the closing (`AddsWarning`), which is followed here from the turn after closing to the whole send.
-/

namespace LabelPress

/-- Two means of transport that differ in nothing but how they close. -/
structure Transport.SameButClose {κ σ : Type} (t t' : Transport κ σ) : Prop where
  «open» : t'.open = t.open
  write : t'.write = t.write
  view : t'.view = t.view
  noteError : t'.noteError = t.noteError

/-- Two factories whose links differ in nothing but how they close. -/
structure Factory.SameButClose {κ σ : Type} (factory factory' : Factory κ σ) : Prop where
  create : factory'.create = factory.create
  transport : factory.transport.SameButClose factory'.transport

/-- There is no other difference either where the doings of the link are set apart. -/
theorem Transport.SameButClose.apart {κ σ : Type} {t t' : Transport κ σ}
    (h : t.SameButClose t') : t.apart.SameButClose t'.apart where
  «open» := congrArg Action.asCalls h.open
  write := funext fun bytes => congrArg Action.asCalls (congrFun h.write bytes)
  view := h.view
  noteError := h.noteError

theorem Factory.SameButClose.apart {κ σ : Type} {factory factory' : Factory κ σ}
    (h : factory.SameButClose factory') : factory.apart.SameButClose factory'.apart where
  create := by
    funext endpoint timeout dryRun
    exact congrArg (fun create => (create endpoint timeout dryRun).asCalls) h.create
  transport := h.transport.apart

namespace Session

variable {κ σ : Type}

/-- The warning about a link that could not be closed. -/
def closeWarning (link : Text) (f : Fault) : Log.Record where
  level := .warning
  source := source
  message := "error while closing " ++ link ++ ": " ++ f.message

/-- **The turn after a closing that has failed** is that after one that has not, but for the
warning. -/
theorem closeTurn_error (link : Text) (phase : Phase) {f : Fault} (hf : f.IsOrdinary) :
    let turn := closeTurn link phase (.ok ())
    closeTurn link phase (.error f) =
      ⟨turn.result, turn.phase, closeWarning link f :: turn.records⟩ := by
  intro turn
  simp [turn, closeTurn, closeWarning, show f.isInterrupt = false from hf]

/-- That one means of transport closes a link where another raises a fault, after which both
describe it alike. -/
structure FailsToClose (t t' : Transport κ σ) (link : σ) (f : Fault) : Prop where
  closes : (t.close link).result = .ok ()
  fails : (t'.close link).result = .error f
  ordinary : f.IsOrdinary
  describe : (t'.view (t'.close link).state).describe = (t.view (t.close link).state).describe

/-! ## Traces with a warning more -/

/-- That two traces agree before and after the closing of a link, but for the warning that the
second has upon it. -/
def AddsWarning (closed closed' : List (Event κ)) (warning : Log.Record)
    (trace trace' : List (Event κ)) : Prop :=
  ∃ before after, trace = before ++ (closed ++ after) ∧
    trace' = before ++ (closed' ++ .log warning :: after)

namespace AddsWarning

variable {closed closed' : List (Event κ)} {warning : Log.Record} {trace trace' : List (Event κ)}

theorem closing (closed closed' : List (Event κ)) (warning : Log.Record) (after : List (Event κ)) :
    AddsWarning closed closed' warning (closed ++ after) (closed' ++ .log warning :: after) :=
  ⟨[], after, rfl, rfl⟩

theorem append_left (h : AddsWarning closed closed' warning trace trace')
    (start : List (Event κ)) :
    AddsWarning closed closed' warning (start ++ trace) (start ++ trace') := by
  obtain ⟨before, after, rfl, rfl⟩ := h
  exact ⟨start ++ before, after, by simp, by simp⟩

theorem append_right (h : AddsWarning closed closed' warning trace trace')
    (rest : List (Event κ)) :
    AddsWarning closed closed' warning (trace ++ rest) (trace' ++ rest) := by
  obtain ⟨before, after, rfl, rfl⟩ := h
  exact ⟨before, after ++ rest, by simp, by simp⟩

theorem cons (h : AddsWarning closed closed' warning trace trace') (e : Event κ) :
    AddsWarning closed closed' warning (e :: trace) (e :: trace') := h.append_left [e]

/-- Where the closing itself leaves no records, the warning is all that the second log has more. -/
theorem logs (h : AddsWarning closed closed' warning trace trace')
    (hclosed : Event.logs closed = []) (hclosed' : Event.logs closed' = []) :
    ∃ before after, Event.logs trace = before ++ after ∧
      Event.logs trace' = before ++ warning :: after := by
  obtain ⟨before, after, rfl, rfl⟩ := h
  exact ⟨Event.logs before, Event.logs after, by simp [hclosed], by simp [hclosed']⟩

end AddsWarning

/-! ## Deliveries over the two -/

section deliver

variable {t t' : Transport κ σ} {bytes : Bytes} {link : σ} {f : Fault}

/-- What a link that did not open has noted is the same over both. -/
theorem openedLink_of_sameButClose (h : t.SameButClose t') (link : σ) :
    openedLink t' link = openedLink t link := by
  unfold openedLink
  rw [h.open, h.noteError]

/-- **A link that does not open is not closed**, so that there is no difference. -/
theorem deliver_of_sameButClose (h : t.SameButClose t')
    (ho : opens (t.open link).result = false) :
    deliver t' bytes ⟨.opening, link⟩ = deliver t bytes ⟨.opening, link⟩ := by
  have ho' : opens (t'.open link).result = false := by rw [h.open, ho]
  rcases opening_cases (t.open link).result with hyes | ⟨-, hf⟩ | ⟨f, hopen, hf⟩
  · rw [ho] at hyes
    cases hyes
  · have hf' : ∀ f, (t'.open link).result = .error f → f.isInterrupt = false := by
      rw [h.open]
      exact hf
    rw [deliver_of_closed bytes ho hf, deliver_of_closed bytes ho' hf', openLink_eq, openLink_eq,
      openedLink_of_sameButClose h, h.open, h.view]
  · have hopen' : (t'.open link).result = .error f := by rw [h.open, hopen]
    rw [deliver_of_interrupt bytes hopen hf, deliver_of_interrupt bytes hopen' hf, h.open]

/-- **Writing and closing.** What the writing has come to stands, whether or not the closing gets
through. -/
theorem writeAndClose_of_failsToClose (h : t.SameButClose t')
    (hclose : FailsToClose t t' (t.write bytes link).state f) :
    let left := (t.write bytes link).state
    let sent := writeAndClose t bytes ⟨.open, link⟩
    let sent' := writeAndClose t' bytes ⟨.open, link⟩
    sent'.result = sent.result ∧ sent'.state.phase = sent.state.phase ∧
      AddsWarning (t.close left).trace (t'.close left).trace
        (closeWarning (t.view (t.close left).state).describe f) sent.trace sent'.trace := by
  intro left sent sent'
  obtain ⟨hcloses, hfails, hordinary, hdescribe⟩ := hclose
  rw [h.view] at hdescribe
  simp only [sent, sent', left, writeAndClose_eq, h.write, h.view, hcloses, hfails, hdescribe,
    closeTurn_error _ _ hordinary, List.map_cons]
  refine ⟨trivial, trivial, ?_⟩
  -- All up to the closing is the same, and so are the records of coming to an end.
  generalize writeTurn _ _ _ = turn
  exact ((((AddsWarning.closing ..).cons _).append_left _).cons _).cons _

end deliver

/-! ## Sends over the two -/

/-- The link that a send asks to close, as the writing has left it. One that does not open is not
closed. -/
def linkToClose (factory : Factory κ σ) (endpoint : Endpoint) (payload : Payload) (s : Session) :
    Option σ :=
  match payload.encode, (built factory endpoint s).result with
  | .ok bytes, .ok link =>
    if opens (factory.transport.open link).result then
      some (factory.transport.write bytes (factory.transport.open link).state).state
    else none
  | _, _ => none

section send

variable {factory factory' : Factory κ σ} {endpoint : Endpoint} {payload : Payload} {s : Session}
variable {left : σ} {f : Fault}

theorem linkToClose_eq_some_iff :
    linkToClose factory endpoint payload s = some left ↔
      ∃ bytes link, payload.encode = .ok bytes ∧ (built factory endpoint s).result = .ok link ∧
        opens (factory.transport.open link).result = true ∧
        (factory.transport.write bytes (factory.transport.open link).state).state = left := by
  unfold linkToClose
  split
  · next bytes link hb h => simp [hb, h]
  · next hno =>
    refine iff_of_false nofun ?_
    rintro ⟨bytes, link, hb, h, -⟩
    exact hno bytes link hb h

/-- A send that does not come to closing a link is the same over both. -/
theorem send_of_linkToClose_eq_none (h : factory.SameButClose factory')
    (hnone : linkToClose factory endpoint payload s = none) :
    send factory' endpoint payload s = send factory endpoint payload s := by
  have hbuilt : built factory' endpoint s = built factory endpoint s := by
    rw [built, built, h.create]
  cases hb : payload.encode with
  | error f => rw [send_of_unencodable hb, send_of_unencodable hb]
  | ok bytes =>
    cases hr : (built factory endpoint s).result with
    | error f =>
      have hr' : (built factory' endpoint s).result = .error f := by rw [hbuilt, hr]
      by_cases hf : f.kind = .address
      · rw [send_of_refusal hb hr hf, send_of_refusal hb hr' hf, hbuilt]
      · rw [send_of_fault hb hr hf, send_of_fault hb hr' hf, hbuilt]
    | ok link =>
      have hr' : (built factory' endpoint s).result = .ok link := by rw [hbuilt, hr]
      have ho : opens (factory.transport.open link).result = false := by
        simpa [linkToClose, hb, hr] using hnone
      rw [send_of_link hb hr, send_of_link hb hr', hbuilt, deliver_of_sameButClose h.transport ho,
        h.transport.view]

/-- A send that comes to closing a link ends in the same way over both, and leaves a warning more
over the second. -/
theorem send_of_linkToClose_eq_some (h : factory.SameButClose factory')
    (hleft : linkToClose factory endpoint payload s = some left)
    (hclose : FailsToClose factory.transport factory'.transport left f) :
    let run := send factory endpoint payload s
    let run' := send factory' endpoint payload s
    let closed := factory.transport.close left
    run'.result = run.result ∧ run'.state.phase = run.state.phase ∧
      AddsWarning closed.trace (factory'.transport.close left).trace
        (closeWarning (factory.transport.view closed.state).describe f) run.trace run'.trace := by
  intro run run' closed
  obtain ⟨bytes, link, hb, hr, ho, rfl⟩ := linkToClose_eq_some_iff.1 hleft
  have hbuilt : built factory' endpoint s = built factory endpoint s := by
    rw [built, built, h.create]
  have hr' : (built factory' endpoint s).result = .ok link := by rw [hbuilt, hr]
  have ho' : opens (factory'.transport.open link).result = true := by rw [h.transport.open, ho]
  obtain ⟨hresult, hphase, htrace⟩ := writeAndClose_of_failsToClose h.transport hclose
  simp only [run, run', send_of_link hb hr, send_of_link hb hr', deliver_of_open bytes ho,
    deliver_of_open bytes ho', hbuilt, h.transport.open, hresult, hphase]
  refine ⟨trivial, trivial, ?_⟩
  exact (((((htrace.cons _).append_left _).cons _).append_right _).append_left _).cons _

end send

/-! ## The log of a send over the two

The records of the session are those of the sends in which the doings of the link are set apart. The
closing leaves none of them, and so the warning is the whole difference. -/

section apart

variable {factory factory' : Factory κ σ} {t t' : Transport κ σ} {link : σ} {f : Fault}

theorem FailsToClose.apart (h : FailsToClose t t' link f) : FailsToClose t.apart t'.apart link f :=
  ⟨h.closes, h.fails, h.ordinary, h.describe⟩

@[simp] theorem linkToClose_apart (endpoint : Endpoint) (payload : Payload) (s : Session) :
    linkToClose factory.apart endpoint payload s = linkToClose factory endpoint payload s := rfl

variable {endpoint : Endpoint} {payload : Payload} {s : Session} {left : σ}

/-- **What the session logs differs by the warning.** -/
theorem records_of_linkToClose_eq_some (h : factory.SameButClose factory')
    (hleft : linkToClose factory endpoint payload s = some left)
    (hclose : FailsToClose factory.transport factory'.transport left f) :
    let closed := factory.transport.close left
    ∃ before after, records factory endpoint payload s = before ++ after ∧
      records factory' endpoint payload s = before ++
        closeWarning (factory.transport.view closed.state).describe f :: after := by
  intro closed
  obtain ⟨-, -, htrace⟩ :=
    send_of_linkToClose_eq_some h.apart ((linkToClose_apart ..).trans hleft) hclose.apart
  exact htrace.logs (by simp) (by simp)

/-- So what is kept of the records is the same if the warning is not. -/
theorem filter_records_eq (h : factory.SameButClose factory')
    (hclose : ∀ left, linkToClose factory endpoint payload s = some left →
      FailsToClose factory.transport factory'.transport left f) {keep : Log.Record → Bool}
    (hkeep : ∀ link, keep (closeWarning link f) = false) :
    (records factory' endpoint payload s).filter keep =
      (records factory endpoint payload s).filter keep := by
  cases hleft : linkToClose factory endpoint payload s with
  | none =>
    have hsame := send_of_linkToClose_eq_none h.apart ((linkToClose_apart ..).trans hleft)
    rw [records, records, hsame]
  | some left =>
    obtain ⟨before, after, hrecords, hrecords'⟩ :=
      records_of_linkToClose_eq_some h hleft (hclose left hleft)
    rw [hrecords, hrecords', List.filter_append, List.filter_append, List.filter_cons, hkeep,
      if_neg (by simp)]

/-- **A closing that fails does no more than add a warning.** Let the links of two factories differ
in nothing but how they close, and let the link that the send asks to close, as the writing has left
it, be closed over the one, and raise a fault that is no interrupt over the other. Then the two
sends give the same delivery or end with the same fault, whatever the writing has come to, and leave
the session in the same phase; the session logs the same changes of phase and the same outcome, and
the second time a warning more. The whole traces, too, differ in nothing but the closing and the
warning right after it, and not at all if there is no link to close. -/
theorem failing_close_only_warns (h : factory.SameButClose factory')
    (hclose : ∀ left, linkToClose factory endpoint payload s = some left →
      FailsToClose factory.transport factory'.transport left f) :
    let run := send factory endpoint payload s
    let run' := send factory' endpoint payload s
    let own := records factory endpoint payload s
    let own' := records factory' endpoint payload s
    run'.result = run.result ∧ run'.state.phase = run.state.phase ∧
      (own'.filter fun r => (change? r).isSome) = (own.filter fun r => (change? r).isSome) ∧
      (own'.filter fun r => r.outcome.isSet) = (own.filter fun r => r.outcome.isSet) ∧
      (linkToClose factory endpoint payload s = none → run' = run ∧ own' = own) ∧
      ∀ left, linkToClose factory endpoint payload s = some left →
        let closed := factory.transport.close left
        let warning := closeWarning (factory.transport.view closed.state).describe f
        (∃ before after, own = before ++ after ∧ own' = before ++ warning :: after) ∧
          AddsWarning closed.trace (factory'.transport.close left).trace warning
            run.trace run'.trace := by
  intro run run' own own'
  have hchange : ∀ link, (change? (closeWarning link f)).isSome = false := by
    intro link
    rw [change?_of_level (by simp [closeWarning])]
    rfl
  have hends : run'.result = run.result ∧ run'.state.phase = run.state.phase := by
    cases hleft : linkToClose factory endpoint payload s with
    | none =>
      have hsame : run' = run := send_of_linkToClose_eq_none h hleft
      rw [hsame]
      exact ⟨rfl, rfl⟩
    | some left =>
      obtain ⟨hresult, hphase, -⟩ := send_of_linkToClose_eq_some h hleft (hclose left hleft)
      exact ⟨hresult, hphase⟩
  refine ⟨hends.1, hends.2, filter_records_eq h hclose hchange,
    filter_records_eq h hclose fun _ => rfl, fun hnone => ⟨?_, ?_⟩, fun left hleft => ⟨?_, ?_⟩⟩
  · exact send_of_linkToClose_eq_none h hnone
  · have hsame := send_of_linkToClose_eq_none h.apart ((linkToClose_apart ..).trans hnone)
    exact congrArg (fun r => Event.logs r.trace) hsame
  · exact records_of_linkToClose_eq_some h hleft (hclose left hleft)
  · exact (send_of_linkToClose_eq_some h hleft (hclose left hleft)).2.2

end apart

/-- After a write that was reset, a link that cannot be closed either is one warning more. -/
theorem failing_close_only_warns_after_reset :
    let reset : Script := { writeFault := some ⟨.connectionReset, "reset"⟩ }
    let stuck : Script := { reset with closeFault := some ⟨.value, "stuck"⟩ }
    let endpoint : Endpoint := ⟨.kind .bluetooth, .text "AC:3F:A4:12:34:56", .null⟩
    let s : Session := { timeout := .int 5, dryRun := false }
    let run := send reset.factory endpoint (.text "^XA") s
    let run' := send stuck.factory endpoint (.text "^XA") s
    let own := records reset.factory endpoint (.text "^XA") s
    let own' := records stuck.factory endpoint (.text "^XA") s
    let left : Link Unit := { carrier := (), timeout := .int 5, dryRun := false, isOpen := true }
    reset.factory.SameButClose stuck.factory ∧
      linkToClose reset.factory endpoint (.text "^XA") s = some left ∧
      FailsToClose reset.factory.transport stuck.factory.transport left ⟨.value, "stuck"⟩ ∧
      run.result = .ok (undelivered .writeFailed 3 "reset") ∧ run'.result = run.result ∧
      run'.state.phase = run.state.phase ∧
      ∃ before after, own = before ++ after ∧
        own' = before ++ closeWarning "fake://printer" ⟨.value, "stuck"⟩ :: after := by
  intro reset stuck endpoint s run run' own own' left
  have hsame : reset.factory.SameButClose stuck.factory := ⟨rfl, ⟨rfl, rfl, rfl, rfl⟩⟩
  have hleft : linkToClose reset.factory endpoint (.text "^XA") s = some left := by rfl
  have hclose : FailsToClose reset.factory.transport stuck.factory.transport left
      ⟨.value, "stuck"⟩ := ⟨rfl, rfl, by decide, rfl⟩
  have hevery : ∀ other, linkToClose reset.factory endpoint (.text "^XA") s = some other →
      FailsToClose reset.factory.transport stuck.factory.transport other ⟨.value, "stuck"⟩ := by
    intro other hother
    obtain rfl := Option.some.inj (hleft.symm.trans hother)
    exact hclose
  obtain ⟨hresult, hphase, -, -, -, hwarns⟩ := failing_close_only_warns hsame hevery
  exact ⟨hsame, hleft, hclose, by rfl, hresult, hphase, (hwarns left hleft).1⟩

end Session

end LabelPress
