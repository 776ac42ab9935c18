import LabelPress.Proofs.Session.Calls

/-!
# Dry runs

A dry run does without the wire, and still it comes out as the send over the wire will, as far as
that is not for the wire to say. An address is refused in the one as in the other, because it is
refused before there is a link (`refuses_iff`). Where it is not, a dry link takes the document whole,
and so does a link over a wire that serves it; of a document that has been taken whole there is only
one thing to make (`send_of_takes`).
-/

namespace LabelPress

/-- A link takes a document if it opens, says that it took every byte, and can then be closed with no
more than an ordinary fault. -/
structure Transport.Takes {κ σ : Type} (transport : Transport κ σ) (bytes : Bytes) (link : σ) :
    Prop where
  opens : Session.opens (transport.open link).result = true
  write : (transport.write bytes (transport.open link).state).result = .ok (.int bytes.length)
  close : ∀ f, (transport.close
    (transport.write bytes (transport.open link).state).state).result = .error f → f.IsOrdinary

namespace Session

variable {κ σ : Type} {factory : Factory κ σ} {endpoint : Endpoint} {payload : Payload}
variable {bytes : Bytes} {s : Session}

/-! ## Documents that are taken whole -/

/-- The delivery of a document that has been taken whole. Of one without bytes nothing is taken,
and that is a failure. -/
def taken (total : Nat) : Delivery :=
  if total = 0 then undelivered .writeFailed 0 "printer accepted 0 of 0 bytes"
  else { outcome := .sent, sent := .int total, total }

/-- The phase in which a session ends that has sent such a document. -/
def takenPhase (total : Nat) : Phase :=
  if total = 0 then .failed else .closed

theorem writeTurn_taken (text : Text) (total : Nat) :
    let turn := writeTurn text total (.ok (.int total))
    turn.result = .ok (taken total) ∧ settle turn.phase = takenPhase total := by
  intro turn
  cases total with
  | zero => exact ⟨rfl, rfl⟩
  | succ n =>
    simp [turn, writeTurn, isProgress, taken, takenPhase, settle]

/-- **A send over a link that takes the document** has one result and one end, whatever link it is. -/
theorem send_of_takes (hb : payload.encode = .ok bytes) {link : σ}
    (h : (built factory endpoint s).result = .ok link) (ht : factory.transport.Takes bytes link) :
    (send factory endpoint payload s).result = reported endpoint (.ok (taken bytes.length)) ∧
      (send factory endpoint payload s).state.phase = takenPhase bytes.length := by
  obtain ⟨hresult, hstate⟩ := writeAndClose_result factory.transport bytes
    (factory.transport.open link).state ht.close
  rw [ht.write] at hresult hstate
  obtain ⟨htaken, hphase⟩ := writeTurn_taken (factory.transport.view
    (factory.transport.write bytes (factory.transport.open link).state).state).describe bytes.length
  simp only [send_of_link hb h, deliver_of_open bytes ht.opens]
  rw [hresult, hstate, htaken]
  exact ⟨rfl, hphase⟩

/-! ## Refused addresses -/

/-- A send ends in a refusal of its address, told in some words. -/
def Refuses (r : Except Fault Delivery) (detail : Option Text) : Prop :=
  ∃ d, r = .ok d ∧ d.outcome = .addressInvalid ∧ d.detail = detail

theorem outcome_of_writeTurn {text : Text} {total : Nat} {r : Except Fault Value} {d : Delivery}
    (h : (writeTurn text total r).result = .ok d) : d.outcome = .sent ∨ d.outcome = .writeFailed := by
  unfold writeTurn at h
  split at h
  · split at h
    · cases h
    · obtain rfl := Except.ok.inj h
      exact .inr rfl
  · split at h
    · cases h
    · obtain rfl := Except.ok.inj h
      exact .inl rfl
    · split at h
      · cases h
      · obtain rfl := Except.ok.inj h
        exact .inr rfl

/-- No link refuses an address. -/
theorem outcome_of_deliver {transport : Transport κ σ} {link : σ} {d : Delivery}
    (h : (deliver transport bytes ⟨.opening, link⟩).result = .ok d) :
    d.outcome ≠ .addressInvalid := by
  rcases opening_cases (transport.open link).result with ho | ⟨ho, hf⟩ | ⟨f, ho, hf⟩
  · rw [deliver_of_open bytes ho] at h
    have houtcome := outcome_of_writeTurn (writeAndClose_of_ok transport h).1
    rcases houtcome with hsent | hfailed
    · simp [hsent]
    · simp [hfailed]
  · rw [deliver_of_closed bytes ho hf] at h
    obtain rfl := Except.ok.inj h
    simp [undelivered]
  · simp [deliver_of_interrupt bytes ho hf] at h

/-- **When an address is refused**: if the factory says so, in its words. -/
theorem refuses_iff (hb : payload.encode = .ok bytes) (detail : Option Text) :
    Refuses (send factory endpoint payload s).result detail ↔
      ∃ f, (built factory endpoint s).result = .error f ∧ f.kind = .address ∧
        Refuses (reported endpoint (.ok (undelivered .addressInvalid bytes.length f.message)))
          detail := by
  cases h : (built factory endpoint s).result with
  | ok link =>
    refine iff_of_false ?_ (by simp)
    rintro ⟨d, hd, houtcome, -⟩
    rw [send_of_link hb h] at hd
    exact outcome_of_deliver (eq_of_reported hd) houtcome
  | error f =>
    by_cases hf : f.kind = .address
    · simp [send_of_refusal hb h hf, hf]
    · refine iff_of_false ?_ (by simp [hf])
      rintro ⟨d, hd, -, -⟩
      simp [send_of_fault hb h hf] at hd

end Session

/-! ## Dry links -/

namespace Link

variable {κ σ : Type} (carrier : Carrier κ σ) {link : Link σ}

theorem connect_of_dry (hdry : link.dryRun = true) :
    connect carrier link = ⟨.ok (.bool true), { link with isOpen := true }, []⟩ := by
  simp [connect, Action.bind_apply, hdry]

theorem write_of_dry (bytes : Bytes) (hopen : link.isOpen = true) (hdry : link.dryRun = true) :
    write carrier bytes link =
      ⟨.ok (.int bytes.length), { link with sent := link.sent ++ [bytes] }, []⟩ := by
  simp [write, Action.bind_apply, hopen, hdry]

theorem close_of_dry (hopen : link.isOpen = true) (hdry : link.dryRun = true) :
    close carrier link = ⟨.ok (), { link with isOpen := false }, []⟩ := by
  simp [close, Action.bind_apply, hopen, hdry]

end Link

namespace Line

variable (wire : Wire) (target : Target) (timeout : Value) (bytes : Bytes)

/-- The steps of a dry send, none of which the wire hears of. -/
theorem dry_steps :
    let link := fresh target timeout true
    let opened : Link Line := { link with isOpen := true }
    let written : Link Line := { opened with sent := [bytes] }
    wire.factory.transport.open link = ⟨.ok (.bool true), opened, []⟩ ∧
      wire.factory.transport.write bytes opened = ⟨.ok (.int bytes.length), written, []⟩ ∧
      wire.factory.transport.close written = ⟨.ok (), { written with isOpen := false }, []⟩ :=
  ⟨Link.connect_of_dry _ rfl, Link.write_of_dry _ bytes rfl rfl, Link.close_of_dry _ rfl rfl⟩

theorem takes_of_dry : wire.factory.transport.Takes bytes (fresh target timeout true) := by
  obtain ⟨hopen, hwrite, hclose⟩ := dry_steps wire target timeout bytes
  constructor
  · simp [hopen, Session.opens, Value.isSet]
  · simp [hopen, hwrite]
  · simp [hopen, hwrite, hclose]

end Line

/-! ## Links over a wire that serves -/

/-- A wire serves links of a kind if connecting and sending go through, for which radio links need a
radio socket as well. Hanging up may raise any ordinary fault. -/
structure Wire.Serves (wire : Wire) (kind : LinkKind) : Prop where
  connect : wire.connect = none
  sendall : wire.sendall = none
  radio : kind = .bluetooth → wire.socket = none ∧ wire.bluetooth = true
  shutdown : ∀ f ∈ wire.shutdown, f.IsOrdinary
  close : ∀ f ∈ wire.close, f.IsOrdinary

namespace Line

variable {wire : Wire}

/-- So a wire that serves links of its kind reaches a target. -/
theorem connectFault_of_serves {target : Target} (h : wire.Serves target.kind) :
    wire.connectFault target = none := by
  cases target with
  | network host port => simp [Wire.connectFault, h.connect]
  | radio device channel =>
    obtain ⟨hsocket, hbluetooth⟩ := h.radio rfl
    simp [Wire.connectFault, hbluetooth, hsocket, h.connect]

theorem takes_of_serves {target : Target} (h : wire.Serves target.kind) (timeout : Value)
    (bytes : Bytes) : wire.factory.transport.Takes bytes (fresh target timeout false) := by
  obtain ⟨hopen, hstate, -⟩ :=
    open_of_reached wire target timeout (connectFault_of_serves h)
  constructor
  · simp [hopen, Session.opens, Value.isSet]
  · simp [hstate, write_reached, h.sendall]
  · intro f hf
    exact (Link.close_ends (disconnect_ends h.shutdown h.close)).fault_of_error hf

end Line

/-! ## The two sends -/

namespace Session

variable {factory' : Factory κ σ} {s' : Session}

/-- Two sends whose links are refused alike end alike. -/
theorem send_congr_of_error (hb : payload.encode = .ok bytes) {f : Fault}
    (h : (built factory endpoint s).result = .error f)
    (h' : (built factory' endpoint s').result = .error f) :
    (send factory endpoint payload s).result = (send factory' endpoint payload s').result ∧
      (send factory endpoint payload s).state.phase =
        (send factory' endpoint payload s').state.phase := by
  by_cases hf : f.kind = .address
  · rw [send_of_refusal hb h hf, send_of_refusal hb h' hf]
    exact ⟨rfl, rfl⟩
  · rw [send_of_fault hb h hf, send_of_fault hb h' hf]
    exact ⟨rfl, rfl⟩

/-- What a dry send makes of a link that has been built: the link keeps the document and is closed,
and the wire is not called. -/
theorem send_dry_of_target (hb : payload.encode = .ok bytes) (wire : Wire) {target : Target}
    (ht : Line.target? endpoint = .ok target) (s : Session) :
    let dry := send wire.factory endpoint payload { s with dryRun := true }
    Event.calls dry.trace = [] ∧
      ∃ view, dry.state.link = some view ∧ view.sent = [bytes] ∧ view.isOpen = false := by
  intro dry
  have hcreate := Line.create_of_target ht wire s.timeout true
  obtain ⟨hopen, hwrite, hclose⟩ := Line.dry_steps wire target s.timeout bytes
  have hopens := (Line.takes_of_dry wire target s.timeout bytes).opens
  have hsend : dry = _ := send_of_link hb (congrArg Run.result hcreate)
  simp only [deliver_of_open bytes hopens, writeAndClose_eq, hopen, hwrite, hclose, built,
    hcreate] at hsend
  constructor
  · simp [hsend]
  · exact ⟨_, congrArg (·.state.link) hsend, rfl, rfl⟩

/-- **A dry run predicts the send.** It ends in a refusal of the address exactly if the send over the
wire does, whatever the wire does, and in the same words. Over a wire that serves, the two have the
same result and leave their sessions in the same phase. The dry run itself calls no wire, and where
the address leads to a link, that has kept the document, once, and is closed. -/
theorem dry_run_predicts_send (hb : payload.encode = .ok bytes) (wire rehearsed : Wire)
    (s : Session) :
    let live := send wire.factory endpoint payload { s with dryRun := false }
    let dry := send rehearsed.factory endpoint payload { s with dryRun := true }
    (∀ detail, Refuses live.result detail ↔ Refuses dry.result detail) ∧
    ((∀ kind ∈ endpoint.kind.kind?, wire.Serves kind) →
      live.result = dry.result ∧ live.state.phase = dry.state.phase) ∧
    Event.calls dry.trace = [] ∧
    ((Line.toEndpoint? endpoint s.timeout true).isOk = true →
      ∃ view, dry.state.link = some view ∧ view.sent = [bytes] ∧ view.isOpen = false) := by
  intro live dry
  -- What the endpoint leads to is the same for both, as it is settled before the wire comes in.
  cases ht : Line.target? endpoint with
  | error p =>
    have hlive : (built wire.factory endpoint { s with dryRun := false }).result =
        .error p.fault := congrArg Run.result (Line.create_of_refusal ht wire s.timeout false)
    have hdry : (built rehearsed.factory endpoint { s with dryRun := true }).result =
        .error p.fault := congrArg Run.result (Line.create_of_refusal ht rehearsed s.timeout true)
    obtain ⟨hresult, hphase⟩ := send_congr_of_error hb hlive hdry
    refine ⟨fun detail => ?_, fun _ => ⟨hresult, hphase⟩, calls_of_refusal hb rehearsed ht _, ?_⟩
    · simp only [live, dry, hresult]
    · intro h
      simp [Line.toEndpoint?_eq, ht, Except.map, Except.isOk, Except.toBool] at h
  | ok target =>
    have hlive : (built wire.factory endpoint { s with dryRun := false }).result =
        .ok (Line.fresh target s.timeout false) :=
      congrArg Run.result (Line.create_of_target ht wire s.timeout false)
    have hdry : (built rehearsed.factory endpoint { s with dryRun := true }).result =
        .ok (Line.fresh target s.timeout true) :=
      congrArg Run.result (Line.create_of_target ht rehearsed s.timeout true)
    obtain ⟨hcalls, hkept⟩ := send_dry_of_target hb rehearsed ht s
    refine ⟨fun detail => ?_, fun hw => ?_, hcalls, fun _ => hkept⟩
    · -- A link has been built in either, and no link refuses an address.
      simp only [live, dry, refuses_iff hb, hlive, hdry]
      simp
    · have hserves : wire.Serves target.kind := hw _ (Line.kind?_of_target? ht)
      obtain ⟨hresult, hphase⟩ :=
        send_of_takes hb hlive (Line.takes_of_serves hserves s.timeout bytes)
      obtain ⟨hresult', hphase'⟩ :=
        send_of_takes hb hdry (Line.takes_of_dry rehearsed target s.timeout bytes)
      exact ⟨hresult.trans hresult'.symm, hphase.trans hphase'.symm⟩

/-- A dry run over a wire that reaches nothing predicts a send over one that cannot hang up. -/
theorem dry_run_predicts_send_without_hangup :
    let wire : Wire := {
      shutdown := some ⟨.value, "stuck"⟩, close := some ⟨.connectionReset, "reset"⟩ }
    let rehearsed : Wire := { connect := some ⟨.connectionRefused, "refused"⟩ }
    let endpoint : Endpoint := ⟨.bare (.text "network"), .text "10.0.0.5", .int 9101⟩
    let s : Session := { timeout := .int 5, dryRun := false }
    let live := send wire.factory endpoint (.text "^XA") { s with dryRun := false }
    let dry := send rehearsed.factory endpoint (.text "^XA") { s with dryRun := true }
    (Payload.text "^XA").encode = .ok [0x5E, 0x58, 0x41] ∧
      (∀ kind ∈ endpoint.kind.kind?, wire.Serves kind) ∧
      (Line.toEndpoint? endpoint s.timeout true).isOk = true ∧
      live.result = dry.result ∧ live.state.phase = dry.state.phase ∧
      Event.calls dry.trace = [] ∧
      ∃ view, dry.state.link = some view ∧ view.sent = [[0x5E, 0x58, 0x41]] ∧
        view.isOpen = false := by
  intro wire rehearsed endpoint s live dry
  have hb : (Payload.text "^XA").encode = .ok [0x5E, 0x58, 0x41] := by rfl
  have hw : ∀ kind ∈ endpoint.kind.kind?, wire.Serves kind := by
    intro kind hkind
    obtain rfl : LinkKind.network = kind := Option.some.inj hkind
    constructor <;> simp [wire, Fault.IsOrdinary, Fault.isInterrupt]
  have hlink : (Line.toEndpoint? endpoint s.timeout true).isOk = true := by rfl
  obtain ⟨-, hserved, hcalls, hkept⟩ := dry_run_predicts_send hb wire rehearsed s
  obtain ⟨hresult, hphase⟩ := hserved hw
  exact ⟨hb, hw, hlink, hresult, hphase, hcalls, hkept hlink⟩

end Session

end LabelPress
